import Iperf.Server.Admission
import Iperf.Session.Core

/-!
# The connections of a session

Every connection has a number of its own.  So a connection that the accept loop
meets is one of the client's, with the client's `Hello` on it, or somebody
else's; and an answer that was given to a connection was given to that one.
-/

namespace Iperf

open Channel Transition

/-- The connection the accept loop is dealing with. -/
def AcceptPc.inHand : AcceptPc → List Inbound
  | .upgraded inbound => [inbound]
  | .reading inbound _ => [inbound]
  | .welcoming inbound => [inbound]
  | .handingOff inbound => [inbound]
  | .refusing inbound _ => [inbound]
  | _ => []

namespace Server

variable {json : Json} {server next : Server} {event : ServerEvent}

/-- The accept loop takes up a connection that is yielded to it, and answers the
one it has in hand. -/
theorem inHand_of_step (step : server.step json event = some next) :
    (∀ inbound ∈ next.accept.inHand,
      inbound ∈ server.accept.inHand ∨ event = .accept inbound) ∧
    ∀ answer ∈ next.replies, answer ∈ server.replies ∨
      ∃ inbound ∈ server.accept.inHand, inbound.stream = answer.1 := by
  cases move_of_step step with
  | controller | task | ctrlC =>
      exact ⟨fun _ inboundMem => .inl inboundMem, fun _ answerMem => .inl answerMem⟩
  | accept event next move =>
      cases move with
      | accept inbound pc alive =>
          constructor
          · intro other otherMem
            exact .inr (List.mem_singleton.mp otherMem ▸ rfl)
          · exact fun _ answerMem => .inl answerMem
      | welcome inbound pc =>
          constructor
          · exact fun other otherMem => .inl (pc ▸ otherMem)
          · intro answer answerMem
            rcases List.mem_append.mp answerMem with old | new
            · exact .inl old
            · right
              refine ⟨inbound, pc ▸ List.mem_singleton_self _, ?_⟩
              rw [List.mem_singleton.mp new]
      | refuse inbound holds delivered replies pc answered =>
          constructor
          · exact fun other otherMem => absurd otherMem List.not_mem_nil
          · intro answer answerMem
            rcases answered with same | added
            · exact .inl (same ▸ answerMem)
            · have answerMem' : answer ∈ replies := answerMem
              rw [added] at answerMem'
              rcases List.mem_append.mp answerMem' with old | new
              · exact .inl old
              · right
                refine ⟨inbound, pc ▸ List.mem_singleton_self _, ?_⟩
                rw [List.mem_singleton.mp new]
      | lookCreateStreams _ _ pc | lookOther _ pc | hello _ _ pc | otherCookie _ _ _ pc =>
          exact ⟨fun other otherMem => .inl (pc ▸ otherMem), fun _ answerMem => .inl answerMem⟩
      | noHello | crash | unwelcome | handOff | terminate | stop =>
          exact ⟨fun other otherMem => absurd otherMem List.not_mem_nil,
            fun _ answerMem => .inl answerMem⟩

end Server

namespace Session

variable {json : Json} {session next : Session} {event : SessionEvent}

/-- The connections that the server has not dealt with yet. -/
def underway (session : Session) : List Inbound :=
  session.server.accept.inHand ++ session.backlog

/-- The numbers of the connections tell them apart. -/
structure Numbered (json : Json) (session : Session) : Prop where
  distinct : session.opened.Nodup
  opened : ∀ stream ∈ session.opened, stream.id < session.nextId
  underway : ∀ inbound ∈ session.underway, inbound.stream.id < session.nextId
  answered : ∀ answer ∈ session.server.replies, answer.1.id < session.nextId
  own : ∀ inbound ∈ session.underway, inbound.stream ∈ session.opened →
    inbound.peer = .sending json.client (.hello session.client.perf.cookie)

theorem new_numbered (json : Json) (clientBuild serverBuild : Build) (cookie : String)
    (params : Parameters) : (new clientBuild serverBuild cookie params).Numbered json where
  distinct := .nil
  opened := fun _ streamMem => absurd streamMem List.not_mem_nil
  underway := fun _ inboundMem => absurd inboundMem List.not_mem_nil
  answered := fun _ answerMem => absurd answerMem List.not_mem_nil
  own := fun _ inboundMem => absurd inboundMem List.not_mem_nil

theorem Numbered.fresh (numbered : session.Numbered json) :
    ⟨session.nextId⟩ ∉ session.opened :=
  fun streamMem => lt_irrefl _ (numbered.opened _ streamMem)

/-- A step that opens no connection. -/
private theorem Numbered.keep (numbered : session.Numbered json)
    (cookie : next.client.perf.cookie = session.client.perf.cookie)
    (opened : next.opened = session.opened) (nextId : next.nextId = session.nextId)
    (underway : ∀ inbound ∈ next.underway, inbound ∈ session.underway)
    (answered : ∀ answer ∈ next.server.replies, answer ∈ session.server.replies ∨
      ∃ inbound ∈ session.underway, inbound.stream = answer.1) : next.Numbered json where
  distinct := opened ▸ numbered.distinct
  opened := by
    rw [opened, nextId]
    exact numbered.opened
  underway := fun inbound inboundMem =>
    nextId ▸ numbered.underway inbound (underway inbound inboundMem)
  answered := by
    intro answer answerMem
    rw [nextId]
    rcases answered answer answerMem with old | ⟨inbound, inboundMem, same⟩
    · exact numbered.answered answer old
    · exact same ▸ numbered.underway inbound inboundMem
  own := by
    intro inbound inboundMem streamMem
    rw [cookie]
    exact numbered.own inbound (underway inbound inboundMem) (opened ▸ streamMem)

/-- One more connection arrives at the listener. -/
private theorem Numbered.arrive (numbered : session.Numbered json) (inbound : Inbound)
    (number : inbound.stream = ⟨session.nextId⟩)
    (cookie : next.client.perf.cookie = session.client.perf.cookie)
    (server : next.server = session.server)
    (backlog : next.backlog = session.backlog ++ [inbound])
    (nextId : next.nextId = session.nextId + 1)
    (opened : next.opened = session.opened ∨
      (next.opened = session.opened ++ [inbound.stream] ∧
        inbound.peer = .sending json.client (.hello session.client.perf.cookie))) :
    next.Numbered json := by
  have underway : next.underway = session.underway ++ [inbound] := by
    simp only [Session.underway, server, backlog, List.append_assoc]
  have old : ∀ stream ∈ next.opened, stream ∈ session.opened ∨ stream = ⟨session.nextId⟩ := by
    intro stream streamMem
    rcases opened with same | ⟨added, -⟩
    · exact .inl (same ▸ streamMem)
    · rw [added, List.mem_append, List.mem_singleton, number] at streamMem
      exact streamMem
  constructor
  · rcases opened with same | ⟨added, -⟩
    · exact same ▸ numbered.distinct
    · rw [added, number, ← List.concat_eq_append]
      exact numbered.distinct.concat numbered.fresh
  · intro stream streamMem
    rw [nextId]
    rcases old stream streamMem with old | new
    · exact Nat.lt_succ_of_lt (numbered.opened stream old)
    · exact new ▸ Nat.lt_succ_self _
  · intro other otherMem
    rw [nextId]
    rw [underway] at otherMem
    rcases List.mem_append.mp otherMem with old | new
    · exact Nat.lt_succ_of_lt (numbered.underway other old)
    · rw [List.mem_singleton.mp new, number]
      exact Nat.lt_succ_self _
  · intro answer answerMem
    rw [nextId]
    exact Nat.lt_succ_of_lt (numbered.answered answer (server ▸ answerMem))
  · intro other otherMem streamMem
    rw [underway] at otherMem
    rw [cookie]
    rcases List.mem_append.mp otherMem with before | new
    · rcases old _ streamMem with mine | later
      · exact numbered.own other before mine
      · have small := numbered.underway other before
        rw [later] at small
        exact absurd small (lt_irrefl _)
    · rw [List.mem_singleton.mp new] at streamMem ⊢
      rcases opened with same | ⟨-, peer⟩
      · rw [same, number] at streamMem
        exact absurd streamMem numbered.fresh
      · exact peer

theorem Numbered.step (numbered : session.Numbered json)
    (step : session.step json event = some next) : next.Numbered json := by
  have cookie : next.client.perf.cookie = session.client.perf.cookie := by
    rcases client_of_step step with same | ⟨event, moved⟩
    · rw [same]
    · rw [Client.perf_of_step moved]
  cases move_of_step step with
  | connect client moved =>
      exact numbered.arrive (session.hello json ⟨session.nextId⟩) rfl cookie rfl rfl rfl
        (.inr ⟨rfl, rfl⟩)
  | stranger peer =>
      exact numbered.arrive ⟨⟨session.nextId⟩, peer⟩ rfl cookie rfl rfl rfl (.inl rfl)
  | reply client welcomed moved =>
      exact numbered.keep cookie rfl rfl (fun _ mem => mem) (fun _ mem => .inl mem)
  | read message toClient client head moved =>
      exact numbered.keep cookie rfl rfl (fun _ mem => mem) (fun _ mem => .inl mem)
  | client event client toServer moved =>
      exact numbered.keep cookie rfl rfl (fun _ mem => mem) (fun _ mem => .inl mem)
  | server event server toClient toServer moved noAccept =>
      obtain ⟨inHand, answered⟩ := Server.inHand_of_step moved
      apply numbered.keep cookie rfl rfl
      · intro inbound inboundMem
        rcases List.mem_append.mp inboundMem with here | waiting
        · apply List.mem_append_left
          exact (inHand inbound here).resolve_right (noAccept inbound)
        · exact List.mem_append_right _ waiting
      · intro answer answerMem
        exact (answered answer answerMem).imp_right fun ⟨inbound, inboundMem, same⟩ =>
          ⟨inbound, List.mem_append_left _ inboundMem, same⟩
  | accept index inbound server waiting moved =>
      obtain ⟨inHand, answered⟩ := Server.inHand_of_step moved
      apply numbered.keep cookie rfl rfl
      · intro other otherMem
        rcases List.mem_append.mp otherMem with here | later
        · rcases inHand other here with old | new
          · exact List.mem_append_left _ old
          · cases new
            exact List.mem_append_right _ (List.mem_of_getElem? waiting)
        · exact List.mem_append_right _ (List.mem_of_mem_eraseIdx later)
      · intro answer answerMem
        exact (answered answer answerMem).imp_right fun ⟨inbound, inboundMem, same⟩ =>
          ⟨inbound, List.mem_append_left _ inboundMem, same⟩

theorem numbered_of_reachable {clientBuild serverBuild : Build} {cookie : String}
    {params : Parameters}
    (reachable : Reachable (Session.step json) (new clientBuild serverBuild cookie params)
      session) : session.Numbered json :=
  reachable.invariant (Numbered json) (fun _ _ _ numbered step => numbered.step step)
    (new_numbered json clientBuild serverBuild cookie params)

end Session

end Iperf
