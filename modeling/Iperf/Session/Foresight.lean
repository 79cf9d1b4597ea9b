import Iperf.Session.Agreement

/-!
# A session with strangers yet to be read

What a stranger sends matters once it is read.  A session can be followed without
deciding it: what is attained can be reached whatever the strangers are going to send
whose connections have not been read, as long as they do not know the cookie.
-/

namespace Iperf

open Channel Transition

/-- The same point, with these peers on a connection that has not been read. -/
def AcceptPc.foreseen (sends : TcpStream → Peer) : AcceptPc → AcceptPc
  | .upgraded inbound => .upgraded { inbound with peer := sends inbound.stream }
  | .reading inbound cookie => .reading { inbound with peer := sends inbound.stream } cookie
  | pc => pc

/-- The connection that is to be read. -/
def AcceptPc.toRead : AcceptPc → Option Inbound
  | .upgraded inbound => some inbound
  | .reading inbound _ => some inbound
  | _ => none

theorem AcceptPc.foreseen_of_toRead {pc : AcceptPc} (settled : pc.toRead = none)
    (sends : TcpStream → Peer) : pc.foreseen sends = pc := by
  cases pc with
  | upgraded | reading => cases settled
  | _ => rfl

/-- The same point, with other peers. -/
def AcceptPc.map (change : Inbound → Inbound) : AcceptPc → AcceptPc
  | .upgraded inbound => .upgraded (change inbound)
  | .reading inbound cookie => .reading (change inbound) cookie
  | .welcoming inbound => .welcoming (change inbound)
  | .handingOff inbound => .handingOff (change inbound)
  | .refusing inbound holds => .refusing (change inbound) holds
  | pc => pc

/-- It matters what a peer sends when it is read, and only then. -/
theorem Server.acceptStep_map {json : Json} {server after : Server} {event : ServerEvent}
    {change : Inbound → Inbound} (streams : ∀ inbound, (change inbound).stream = inbound.stream)
    (noAccept : ∀ inbound, event ≠ .accept inbound)
    (reads : ∀ inbound asked, server.accept = .reading inbound asked → event = .hello →
      readCookie json (change inbound).peer = readCookie json inbound.peer)
    (step : server.acceptStep json event = some after) :
    acceptStep json { server with accept := server.accept.map change } event =
      some { after with accept := after.accept.map change } := by
  cases event with
  | controller | task | ctrlC => cases step
  | accept inbound => exact absurd rfl (noAccept inbound)
  | look =>
      simp only [acceptStep] at step
      split at step
      · rename_i inbound pc
        split at step
        · cases step
        · rename_i unlocked
          cases step
          simp only [acceptStep, pc, AcceptPc.map, unlocked, Bool.false_eq_true, if_false, look]
          split <;> rfl
      · cases step
  | hello =>
      simp only [acceptStep] at step
      split at step
      · rename_i inbound asked pc
        simp only [acceptStep, pc, AcceptPc.map, reads inbound asked pc rfl]
        generalize readCookie json inbound.peer = outcome at step ⊢
        cases outcome with
        | waiting => cases step
        | panicked =>
            cases step
            rfl
        | done result =>
            cases result with
            | error error =>
                cases step
                rfl
            | ok clientCookie =>
                simp only [hello] at step ⊢
                split at step
                · rename_i same
                  cases step
                  rw [if_pos same]
                · rename_i other
                  cases step
                  rw [if_neg other]
      · cases step
  | welcome delivered =>
      simp only [acceptStep] at step
      split at step
      · rename_i inbound pc
        cases delivered <;> cases step <;> simp [acceptStep, pc, AcceptPc.map, streams, unlock]
      · cases step
  | handOff =>
      simp only [acceptStep] at step
      split at step
      · rename_i inbound pc
        cases step
        simp only [acceptStep, pc, AcceptPc.map, streams]
      · cases step
  | refuse delivered =>
      simp only [acceptStep] at step
      split at step
      · rename_i inbound holds pc
        cases step
        simp only [acceptStep, pc, AcceptPc.map, streams]
      · cases step
  | terminate =>
      simp only [acceptStep] at step
      split at step
      · rename_i error pc
        cases step
        simp only [acceptStep, pc, AcceptPc.map]
      · cases step
  | stop =>
      simp only [acceptStep] at step
      split at step
      · rename_i pc
        split at step
        · rename_i signalled
          cases step
          simp only [acceptStep, pc, AcceptPc.map, ne_eq, signalled, not_false_eq_true, if_true]
        · cases step
      · cases step

/-- A step of the test by itself. -/
def ServerEvent.isOwn : ServerEvent → Bool
  | .controller _ | .task _ _ | .ctrlC => true
  | _ => false

/-- What is sent on a connection: the client's `hello`, or what its peer sends. -/
def sends (hello : Peer) (opened : List TcpStream) (peers : Nat → Peer) (stream : TcpStream) :
    Peer :=
  if stream ∈ opened then hello else peers stream.id

/-- Who has opened a connection is known from its number. -/
theorem sends_append {hello : Peer} {opened : List TcpStream} {peers : Nat → Peer}
    {stream latest : TcpStream} (other : stream ≠ latest) :
    sends hello (opened ++ [latest]) peers stream = sends hello opened peers stream := by
  simp only [sends, List.mem_append, List.mem_singleton, other, or_false]

theorem sends_latest {hello : Peer} {opened : List TcpStream} {peers : Nat → Peer}
    {latest : TcpStream} : sends hello (opened ++ [latest]) peers latest = hello :=
  if_pos (List.mem_append_right _ (List.mem_singleton_self _))

theorem AcceptPc.foreseen_congr {pc : AcceptPc} {left right : TcpStream → Peer}
    (same : ∀ inbound ∈ pc.toRead, left inbound.stream = right inbound.stream) :
    pc.foreseen left = pc.foreseen right := by
  cases pc with
  | upgraded inbound | reading inbound cookie =>
      simp only [foreseen, same inbound rfl]
  | _ => rfl

namespace Session

/-- The connections that have not been read. -/
def unread (session : Session) : List TcpStream :=
  (session.server.accept.toRead.toList ++ session.backlog).map Inbound.stream

/-- The same session, with these peers on the connections that have not been read. -/
def foreseen (sends : TcpStream → Peer) (session : Session) : Session :=
  { session with
    server := { session.server with accept := session.server.accept.foreseen sends }
    backlog := session.backlog.map fun inbound =>
      { inbound with peer := sends inbound.stream } }

theorem foreseen_congr {session : Session} {left right : TcpStream → Peer}
    (same : ∀ stream ∈ session.unread, left stream = right stream) :
    session.foreseen left = session.foreseen right := by
  have accept : session.server.accept.foreseen left = session.server.accept.foreseen right := by
    apply AcceptPc.foreseen_congr
    exact fun inbound inboundMem =>
      same _ (List.mem_map_of_mem (List.mem_append_left _ (Option.mem_toList.mpr inboundMem)))
  have backlog : (session.backlog.map fun inbound =>
      { inbound with peer := left inbound.stream }) =
      session.backlog.map fun inbound => { inbound with peer := right inbound.stream } := by
    apply List.map_congr_left
    intro inbound inboundMem
    rw [same _ (List.mem_map_of_mem (List.mem_append_right _ inboundMem))]
  unfold foreseen
  rw [accept, backlog]

/-- The session is reached, whatever strangers send that have not been read. -/
def Attained (json : Json) (cookie : String) (start session : Session) : Prop :=
  ∀ peers : Nat → Peer, (∀ id, readCookie json (peers id) ≠ .done (.ok cookie)) →
    ReachableBy (SessionEvent.Honest json cookie) (Session.step json) start
      (session.foreseen
        (sends (.sending json.client (.hello cookie)) session.opened peers))

variable {json : Json} {cookie : String} {start session next : Session}

theorem attained_self (waiting : start.backlog = []) (idle : start.server.accept = .idle) :
    Attained json cookie start start := by
  intro peers honest
  have same : ∀ sends, start.foreseen sends = start := by
    intro sends
    rcases start with ⟨client, ⟨test, accept, replies⟩, backlog, toClient, toServer, nextId, opened⟩
    cases waiting
    cases idle
    rfl
  rw [same]
  exact .refl _ _ _

/-! ## What leads on -/

/-- Somebody else connects. -/
theorem Attained.stranger (attained : Attained json cookie start session)
    (fresh : ⟨session.nextId⟩ ∉ session.opened) (peer : Peer) :
    Attained json cookie start { session with
      backlog := session.backlog ++ [⟨⟨session.nextId⟩, peer⟩]
      nextId := session.nextId + 1 } := by
  intro peers honest
  apply @ReachableBy.tail _ _ _ _ _ _ _ (SessionEvent.stranger (peers session.nextId))
    (attained peers honest) (honest session.nextId)
  simp only [Session.step, foreseen, List.map_append, List.map_cons, List.map_nil, sends, fresh,
    if_false]

/-- The client moves. -/
theorem clientStep_foreseen {event : ClientEvent} (peers : Nat → Peer)
    (step : session.clientStep json event = some next)
    (perf : session.client.perf.cookie = cookie)
    (fresh : ∀ stream ∈ session.unread, stream ≠ ⟨session.nextId⟩) :
    clientStep json (session.foreseen
        (sends (.sending json.client (.hello cookie)) session.opened peers)) event =
      some (next.foreseen (sends (.sending json.client (.hello cookie)) next.opened peers)) := by
  unfold clientStep at step ⊢
  split at step
  · rename_i stream
    split at step
    · rename_i here
      subst here
      rcases Option.map_eq_some_iff.mp step with ⟨client, moved, rfl⟩
      have same := @foreseen_congr session _ _
        fun stream streamMem => @sends_append (.sending json.client (.hello cookie))
          session.opened peers stream _ (fresh stream streamMem)
      have accept := congrArg (fun session => session.server.accept) same
      have backlog := congrArg Session.backlog same
      simp only [foreseen] at accept backlog
      simp only [foreseen, if_true, moved, Option.map_some, List.map_append, List.map_cons,
        List.map_nil, accept, backlog, Session.hello, perf, sends_latest]
    · cases step
  · rename_i message
    split at step
    · rename_i enabled
      rcases enabled with ⟨rfl, welcomed⟩
      have still : (session.foreseen
          (sends (.sending json.client (.hello cookie)) session.opened peers)).isWelcomed = true :=
        welcomed
      rcases Option.map_eq_some_iff.mp step with ⟨client, moved, rfl⟩
      simp only [still, and_self, if_true]
      simp only [foreseen, moved, Option.map_some]
    · cases step
  · split at step
    · cases step
    · rename_i head toClient control
      split at step
      · rename_i same
        subst same
        rcases Option.map_eq_some_iff.mp step with ⟨client, moved, rfl⟩
        simp only [foreseen, control, moved, if_true, Option.map_some]
      · cases step
  · rcases Option.map_eq_some_iff.mp step with ⟨client, moved, rfl⟩
    simp only [foreseen, moved, Option.map_some]
  · rcases Option.map_eq_some_iff.mp step with ⟨client, moved, rfl⟩
    simp only [foreseen, moved, Option.map_some]

theorem Attained.client (attained : Attained json cookie start session) {event : ClientEvent}
    (step : session.clientStep json event = some next)
    (perf : session.client.perf.cookie = cookie)
    (fresh : ∀ stream ∈ session.unread, stream ≠ ⟨session.nextId⟩) :
    Attained json cookie start next := by
  intro peers honest
  apply @ReachableBy.tail _ _ _ _ _ _ _ (SessionEvent.client event) (attained peers honest) trivial
  exact clientStep_foreseen peers step perf fresh

/-- The test of the server moves by itself. -/
theorem Attained.test (attained : Attained json cookie start session) {event : ServerEvent}
    (own : event.isOwn = true) (step : session.serverStep json event = some next) :
    Attained json cookie start next := by
  intro peers honest
  apply @ReachableBy.tail _ _ _ _ _ _ _ (SessionEvent.server event) (attained peers honest) trivial
  simp only [Session.step]
  unfold serverStep at step ⊢
  split at step
  · cases step
  · split at step
    · cases step
    · rename_i head toServer control
      split at step
      · rename_i same
        subst same
        rcases Option.map_eq_some_iff.mp step with ⟨server, moved, rfl⟩
        rcases Option.map_eq_some_iff.mp moved with ⟨test, moves, rfl⟩
        simp only [foreseen, control, if_true, Server.step, moves, Option.map_some]
      · cases step
  · rcases Option.map_eq_some_iff.mp step with ⟨server, moved, rfl⟩
    rcases Option.map_eq_some_iff.mp moved with ⟨test, moves, rfl⟩
    simp only [foreseen, Server.step, moves, Option.map_some]
  · rcases Option.map_eq_some_iff.mp step with ⟨server, moved, rfl⟩
    cases event with
    | task index event =>
        rcases Option.map_eq_some_iff.mp moved with ⟨test, moves, rfl⟩
        simp only [foreseen, Server.step, moves, Option.map_some]
    | ctrlC =>
        rcases Option.map_eq_some_iff.mp moved with ⟨test, moves, rfl⟩
        simp only [foreseen, Server.step, moves, Option.map_some]
    | controller event => rename_i other; exact absurd rfl (other event)
    | _ => cases own

/-- The listener yields a connection. -/
theorem Attained.accept (attained : Attained json cookie start session) {index : Nat}
    {inbound : Inbound} (waiting : session.backlog[index]? = some inbound)
    (idle : session.server.accept = .idle) (alive : session.server.test.alive = true) :
    Attained json cookie start { session with
      server := { session.server with accept := .upgraded inbound }
      backlog := session.backlog.eraseIdx index } := by
  intro peers honest
  apply @ReachableBy.tail _ _ _ _ _ _ _ (SessionEvent.accept index) (attained peers honest) trivial
  simp only [Session.step, foreseen, List.getElem?_map, waiting, Option.map_some, Server.step,
    Server.acceptStep, idle, AcceptPc.foreseen, alive, if_true, List.eraseIdx_map]

/-- The accept loop locks the state to read the connection. -/
theorem Attained.look (attained : Attained json cookie start session) {inbound : Inbound}
    {asked : String} (upgraded : session.server.accept = .upgraded inbound)
    (unlocked : session.server.test.locked = false)
    (state : session.server.test.state = .createStreams asked) :
    Attained json cookie start { session with
      server := { session.server with
        test := { session.server.test with locked := true }
        accept := .reading inbound asked } } := by
  intro peers honest
  apply @ReachableBy.tail _ _ _ _ _ _ _ (SessionEvent.server .look) (attained peers honest) trivial
  simp only [Session.step, Session.serverStep, foreseen, upgraded, AcceptPc.foreseen, Server.step,
    Server.acceptStep, unlocked, Bool.false_eq_true, if_false, Server.look, state, Option.map_some]


/-- What is to be read is what its peer has sent. -/
structure Consistent (json : Json) (cookie : String) (session : Session) : Prop where
  own : ∀ inbound ∈ session.server.accept.toRead, inbound.stream ∈ session.opened →
    inbound.peer = .sending json.client (.hello cookie)
  honest : ∀ inbound ∈ session.server.accept.toRead, inbound.stream ∉ session.opened →
    readCookie json inbound.peer ≠ .done (.ok cookie)
  apart : ∀ inbound ∈ session.server.accept.toRead,
    inbound.stream ∉ session.backlog.map Inbound.stream

/-- Peers that send what is to be read, and otherwise what these peers send. -/
theorem Consistent.choose (consistent : session.Consistent json cookie) {peers : Nat → Peer}
    (honest : ∀ id, readCookie json (peers id) ≠ .done (.ok cookie)) :
    ∃ chosen : Nat → Peer, (∀ id, readCookie json (chosen id) ≠ .done (.ok cookie)) ∧
      (∀ inbound ∈ session.server.accept.toRead,
        sends (.sending json.client (.hello cookie)) session.opened chosen inbound.stream =
          inbound.peer) ∧
      ∀ inbound ∈ session.backlog, chosen inbound.stream.id = peers inbound.stream.id := by
  cases toRead : session.server.accept.toRead with
  | none => exact ⟨peers, honest, fun _ none => (Option.not_mem_none _ none).elim, fun _ _ => rfl⟩
  | some inbound =>
      have here : inbound ∈ session.server.accept.toRead := toRead
      by_cases own : inbound.stream ∈ session.opened
      · refine ⟨peers, honest, ?_, fun _ _ => rfl⟩
        intro other otherMem
        rw [← Option.some.inj otherMem, consistent.own inbound here own, sends, if_pos own]
      · refine ⟨Function.update peers inbound.stream.id inbound.peer, ?_, ?_, ?_⟩
        · intro id
          by_cases same : id = inbound.stream.id
          · rw [same, Function.update_self]
            exact consistent.honest inbound here own
          · rw [Function.update_of_ne same]
            exact honest id
        · intro other otherMem
          rw [← Option.some.inj otherMem, sends, if_neg own, Function.update_self]
        · intro other otherMem
          apply Function.update_of_ne
          intro same
          apply consistent.apart inbound here
          exact List.mem_map.mpr ⟨other, otherMem, congrArg TcpStream.mk same⟩

/-- A step of `handleCreateStream` is one of the server of the session. -/
theorem serverStep_of_acceptStep {event : ServerEvent} {after : Server}
    (noAccept : ∀ inbound, event ≠ .accept inbound)
    (step : session.server.acceptStep json event = some after) :
    session.serverStep json event = some { session with server := after } := by
  cases event with
  | controller | task | ctrlC => cases step
  | accept inbound => exact absurd rfl (noAccept inbound)
  | _ => simp only [serverStep, Server.step, step, Option.map_some]

/-- The accept loop reads a connection, or goes on with one that has been read. -/
theorem Attained.settle (attained : Attained json cookie start session)
    (consistent : session.Consistent json cookie) {event : ServerEvent} {after : Server}
    (settled : after.accept.toRead = none) (noAccept : ∀ inbound, event ≠ .accept inbound)
    (step : session.server.acceptStep json event = some after) :
    Attained json cookie start { session with server := after } := by
  intro peers honest
  rcases consistent.choose honest with ⟨chosen, stillHonest, here, there⟩
  have accept : session.server.accept.foreseen
      (sends (.sending json.client (.hello cookie)) session.opened chosen) =
        session.server.accept := by
    cases standing : session.server.accept with
    | upgraded inbound | reading inbound asked =>
        have sent := here inbound (standing ▸ rfl)
        simp only [AcceptPc.foreseen, sent]
    | _ => rfl
  have backlog : (session.backlog.map fun inbound => { inbound with
        peer := sends (.sending json.client (.hello cookie)) session.opened chosen
          inbound.stream }) =
      session.backlog.map fun inbound => { inbound with
        peer := sends (.sending json.client (.hello cookie)) session.opened peers
          inbound.stream } := by
    apply List.map_congr_left
    intro inbound inboundMem
    simp only [sends, there inbound inboundMem]
  apply @ReachableBy.tail _ _ _ _ _ _ _ (SessionEvent.server event) (attained chosen stillHonest)
    trivial
  simp only [Session.step, foreseen, accept, AcceptPc.foreseen_of_toRead settled, ← backlog]
  exact serverStep_of_acceptStep noAccept step

end Session

end Iperf
