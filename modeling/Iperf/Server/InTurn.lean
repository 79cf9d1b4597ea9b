import Iperf.Server.Admission

/-!
# Connections in turn

The accept loop deals with one connection at a time and the mailbox keeps its
order, so the controller receives the connections as they were welcomed.
-/

namespace Iperf

open Channel Transition

/-- The connection the accept loop may still welcome. -/
def AcceptPc.candidate (json : Json) (cookie : String) : AcceptPc → List TcpStream
  | .upgraded inbound => if inbound.presents json cookie then [inbound.stream] else []
  | .reading inbound _ => if inbound.presents json cookie then [inbound.stream] else []
  | .welcoming inbound => [inbound.stream]
  | _ => []

theorem creates_eq_nil_iff {messages : List ControllerMessage} :
    creates messages = [] ↔ ∀ stream, .createStream stream ∉ messages := by
  rw [creates, List.filterMap_eq_nil_iff]
  constructor
  · intro none stream streamMem
    cases none _ streamMem
  · intro none message messageMem
    cases message with
    | createStream stream => exact absurd messageMem (none stream)
    | streamTerminated id => rfl
    | terminate => rfl

namespace Server

variable {json : Json} {server next : Server} {event : ServerEvent}

/-- What a step does to the connections that may be welcomed. -/
inductive Considers (json : Json) (server : Server) : ServerEvent → Server → Prop where
  /-- A connection is yielded. -/
  | takes (inbound : Inbound) (next : Server) (free : server.accept = .idle)
      (accept : next.accept = .upgraded inbound) (welcomed : next.welcomed = server.welcomed) :
      Considers json server (.accept inbound) next
  /-- The connection at hand is given up, if it changes at all. -/
  | drops (event : ServerEvent) (next : Server)
      (candidate : (next.accept.candidate json server.test.perf.cookie).Sublist
        (server.accept.candidate json server.test.perf.cookie))
      (welcomed : next.welcomed = server.welcomed) : Considers json server event next
  | welcomes (event : ServerEvent) (next : Server) (stream : TcpStream)
      (candidate : server.accept.candidate json server.test.perf.cookie = [stream])
      (done : next.accept.candidate json server.test.perf.cookie = [])
      (welcomed : next.welcomed = server.welcomed ++ [stream]) :
      Considers json server event next

theorem considers_of_step (phased : server.Phased)
    (step : server.step json event = some next) : Considers json server event next := by
  cases move_of_step step with
  | controller | task | ctrlC => exact .drops _ _ (.refl _) rfl
  | accept event next move =>
      cases move with
      | accept inbound pc alive => exact .takes inbound _ pc rfl rfl
      | welcome inbound pc =>
          apply Considers.welcomes _ _ inbound.stream
          · rw [pc]
            rfl
          · rfl
          · exact List.filterMap_append
      | refuse inbound holds delivered replies pc answer =>
          apply Considers.drops
          · exact List.nil_sublist _
          · rcases answer with same | added
            · simp only [Server.welcomed, same]
            · simp [Server.welcomed, added, Reply.welcomedStream]
      | lookCreateStreams inbound cookie pc =>
          apply Considers.drops
          · rw [pc]
            exact .refl _
          · rfl
      | hello inbound cookie pc read =>
          rw [phased.reading inbound cookie pc, ← Inbound.presents_iff] at read
          apply Considers.drops
          · simp [pc, AcceptPc.candidate, read]
          · rfl
      | lookOther | otherCookie | noHello | crash | unwelcome | handOff | terminate | stop =>
          exact .drops _ _ (List.nil_sublist _) rfl

/-- No step takes a welcome back. -/
theorem Considers.welcomed_grows (considers : Considers json server event next) :
    server.welcomed <+: next.welcomed := by
  cases considers with
  | takes inbound next free accept welcomed => exact welcomed ▸ List.prefix_refl _
  | drops event next candidate welcomed => exact welcomed ▸ List.prefix_refl _
  | welcomes event next stream candidate done welcomed =>
      exact welcomed ▸ List.prefix_append _ _

/-- A message that is lost stays lost. -/
theorem lost_of_step (step : server.step json event = some next)
    {message : ControllerMessage} (messageMem : message ∈ server.test.lost) :
    message ∈ next.test.lost := by
  cases move_of_step step with
  | controller event test move => exact move.lost_mono messageMem
  | task index event test move => exact move.mono.2 message messageMem
  | ctrlC quiet => exact messageMem
  | accept event next move => exact move.mono.2 message messageMem

/-- Unless a hand-off is lost, the controller receives the connections in the
order in which they are welcomed. -/
def InTurn (server : Server) : Prop :=
  (∀ stream, .createStream stream ∉ server.test.lost) →
    creates server.test.received <+: server.welcomed

private theorem Admitted.received_prefix (admitted : server.Admitted)
    (running : server.test.alive = true)
    (kept : ∀ stream, .createStream stream ∉ server.test.lost) :
    creates server.test.accepted <+: server.welcomed := by
  rw [← admitted.kept running (creates_eq_nil_iff.mpr kept)]
  exact List.prefix_append _ _

theorem InTurn.step (inTurn : server.InTurn) (phased : server.Phased)
    (admitted : server.Admitted) (after : next.Admitted)
    (step : server.step json event = some next) : next.InTurn := by
  intro kept
  have earlier : ∀ stream, .createStream stream ∉ server.test.lost :=
    fun stream streamMem => kept stream (lost_of_step step streamMem)
  have grows := (considers_of_step phased step).welcomed_grows
  by_cases running : next.test.alive = true
  · apply List.IsPrefix.trans _ (after.received_prefix running kept)
    exact creates_mono (List.prefix_append _ _)
  · -- The controller is gone, so what it has received does not change any more.
    cases move_of_step step with
    | controller event test move =>
        apply List.IsPrefix.trans _ (admitted.received_prefix move.alive earlier)
        have received : creates test.received <+: creates test.accepted :=
          creates_mono (List.prefix_append _ _)
        apply received.trans
        rcases move.accepted with same | added | ⟨-, shorter⟩
        · rw [same]
        · simp [added]
        · exact creates_mono shorter
    | task index event test move =>
        rw [InTurn] at inTurn
        rw [move.frame.received]
        exact inTurn earlier
    | ctrlC quiet => exact inTurn earlier
    | accept event next move =>
        rw [move.outside.received]
        exact (inTurn earlier).trans grows

theorem inTurn_of_reachable {build : Build} {perf : Perf} (role : perf.role = .server)
    (reachable : Reachable (Server.step json) (new build perf) server) : server.InTurn := by
  have all : server.Phased ∧ server.Admitted ∧ server.InTurn := by
    apply reachable.invariant (fun server => server.Phased ∧ server.Admitted ∧ server.InTurn) _
      ⟨new_phased build role, new_admitted build perf, fun _ => List.prefix_refl _⟩
    rintro source event target ⟨phased, admitted, inTurn⟩ step
    have after := admitted.step phased step
    exact ⟨phased.step step, after, inTurn.step phased admitted after step⟩
  exact all.2.2

end Server

end Iperf
