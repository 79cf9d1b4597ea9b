import Iperf.Client.Handshake
import Iperf.Server.Step
import Iperf.Session.Core

/-!
# The invitation

The client opens connections only when its server has asked for streams: the
request is announced, written, read and stored, in this order.
-/

namespace Iperf

open Channel Transition

/-- On its way to open streams, or doing so. -/
def Pc.Invited : Pc → Prop
  | .announcing (.createStreams _) => True
  | .storing (.createStreams _) => True
  | .matched (.createStreams _) => True
  | .connecting _ => True
  | .greeting _ _ => True
  | _ => False

namespace Client

open Controller

variable {client next : Controller}

/-- The client has been asked for streams. -/
def Invited (client : Controller) : Prop :=
  (∃ cookie, client.state = .createStreams cookie) ∨ client.pc.Invited

private theorem invited_move (role : client.perf.role = .client)
    (move : Controller.Move client next) (invited : Invited next) :
    Invited client ∨
      (client.pc = .selecting ∧ ∃ cookie, next.pc = .storing (.createStreams cookie)) := by
  rcases invited with ⟨cookie, state⟩ | pc
  · left
    rcases move.state with same | ⟨target, pc, -, stored, -⟩
    · exact .inl ⟨cookie, same ▸ state⟩
    · rw [stored] at state
      right
      rw [pc, state]
      trivial
  · cases move with
    | turn here unlocked =>
        cases state : client.state with
        | createStreams cookie => exact .inl (.inl ⟨cookie, state⟩)
        | _ => simp [state, Pc.Invited] at pc
    | connect cookie total here => exact .inl (.inr (here ▸ trivial))
    | greet total stream here => exact .inl (.inr (here ▸ trivial))
    | greeted total stream here => exact .inl (.inr (here ▸ trivial))
    | serverSets target here =>
        cases target with
        | createStreams cookie => exact .inr ⟨here, cookie, rfl⟩
        | _ => exact pc.elim
    | announce target here =>
        cases target with
        | createStreams cookie => exact .inl (.inr (here ▸ trivial))
        | _ => exact pc.elim
    | createStreams here server =>
        rw [role] at server
        cases server
    | close next closes =>
        have after := closes.after
        cases here : next.pc <;> simp_all [Pc.Closing, Pc.Invited]
    | finish next ends =>
        obtain ⟨ending, ended⟩ := ends.pc
        simp [ended, Pc.Invited] at pc
    | recvCreate stream mailbox total here server =>
        rw [role] at server
        cases server
    | recvStray | join | recvTerminate | shutdown =>
        simp [afterTerminatedPc, setStatePc, role, Pc.Invited] at pc
    | _ => exact pc.elim

/-- In its `select!` the client takes up a new state from its server only, or
`Terminate`. -/
private theorem read_of_selecting {event : ControllerEvent} {cookie : String}
    (role : client.perf.role = .client) (step : client.controllerStep event = some next)
    (pc : client.pc = .selecting) (storing : next.pc = .storing (.createStreams cookie)) :
    event = .clientRead (.ok (.setState (.createStreams cookie))) := by
  cases event with
  | recv =>
      simp only [controllerStep, pc, if_true] at step
      split at step
      · rename_i message mailbox received
        cases step
        cases message with
        | createStream stream =>
            simp [processInternalMessage, acceptStream, dequeue, role, finish] at storing
        | streamTerminated id =>
            simp only [processInternalMessage, afterTerminated, dequeue, role] at storing
            split at storing <;> simp at storing
        | terminate =>
            simp [processInternalMessage, setState, setStatePc, dequeue, role] at storing
      · cases step
  | shutdown =>
      simp only [controllerStep] at step
      split at step
      · cases step
        simp [setState, setStatePc, role] at storing
      · cases step
  | clientRead outcome =>
      cases outcome with
      | error error =>
          simp only [controllerStep, role, pc, if_true, Option.some.injEq] at step
          subst step
          simp [finish] at storing
      | ok message =>
          simp only [controllerStep, role, pc, if_true, Option.some.injEq] at step
          subst step
          cases message with
          | setState state =>
              simp only [processServerMessage, setState, setStatePc, role, Pc.storing.injEq]
                at storing
              rw [storing]
          | welcome => simp [processServerMessage] at storing
          | sendResults results => simp [processServerMessage] at storing
  | serverRead outcome => simp [controllerStep, role] at step
  | _ => simp [controllerStep, pc] at step

/-- The client is asked for streams by a message of its server. -/
theorem invited_of_step (event : ClientEvent) (role : client.perf.role = .client)
    (step : Client.step client event = some next) (invited : Invited next) :
    Invited client ∨
      ∃ cookie, event = .controller (.clientRead (.ok (.setState (.createStreams cookie)))) := by
  cases event with
  | controller event =>
      rcases invited_move role (move_of_controllerStep step) invited with earlier |
        ⟨pc, cookie, storing⟩
      · exact .inl earlier
      · exact .inr ⟨cookie, congrArg _ (read_of_selecting role step pc storing)⟩
  | task index event =>
      have frame := (move_of_taskStep step).frame
      left
      rwa [Invited, frame.state, frame.pc] at invited
  | ctrlC =>
      cases move_of_step step with
      | ctrlC quiet => exact .inl invited

end Client

namespace Session

variable {json : Json} {session next : Session} {event : SessionEvent}

/-- The server has asked for streams. -/
def Asking (session : Session) : Prop :=
  ∃ cookie, .createStreams cookie ∈ session.server.test.announced

/-- Whoever knows that streams are wanted knows it from the server. -/
structure Informed (session : Session) : Prop where
  toClient : ∀ cookie, .setState (.createStreams cookie) ∈ session.toClient → session.Asking
  client : Client.Invited session.client → session.Asking
  opened : session.opened ≠ [] → session.Asking

theorem new_informed (clientBuild serverBuild : Build) (cookie : String)
    (params : Parameters) : (new clientBuild serverBuild cookie params).Informed where
  toClient := fun _ messageMem => absurd messageMem List.not_mem_nil
  client := by
    rintro (⟨cookie, state⟩ | pc)
    · simp [new, Client.new, Controller.new] at state
    · exact pc.elim
  opened := fun opened => absurd rfl opened

private theorem asking_of_step (step : session.step json event = some next)
    (asking : session.Asking) : next.Asking := by
  obtain ⟨cookie, announced⟩ := asking
  refine ⟨cookie, ?_⟩
  rcases server_of_step step with same | ⟨event, moved⟩
  · exact same ▸ announced
  · rcases Server.announced_of_step moved with same | ⟨target, pc, result⟩
    · exact same ▸ announced
    · rw [result]
      exact List.mem_append_left _ announced

/-- A request for streams that is written is an announcement. -/
private theorem announced_of_writes {test next : Controller} {event : ControllerEvent}
    {cookie : String} (step : test.controllerStep event = some next)
    (written : .setState (.createStreams cookie) ∈ serverWrites test event) :
    .createStreams cookie ∈ next.announced := by
  unfold serverWrites at written
  split at written
  · split at written
    · rename_i target pc
      rw [List.mem_singleton, ServerMessage.setState.injEq] at written
      simp only [Controller.controllerStep, pc, if_true, Option.some.injEq] at step
      rw [← step, written]
      exact List.mem_append_right _ (List.mem_singleton_self _)
    · simp at written
    · cases written
  · cases written

theorem Informed.step (informed : session.Informed)
    (role : session.client.perf.role = .client)
    (step : session.step json event = some next) : next.Informed := by
  have grows := asking_of_step step
  cases move_of_step step with
  | connect client moved =>
      obtain ⟨total, pc⟩ : ∃ total, session.client.pc = .connecting total := by
        obtain ⟨total, pc, -⟩ := Client.connect_eq moved
        exact ⟨total, pc⟩
      have asking := grows (informed.client (.inr (pc ▸ trivial)))
      exact ⟨fun _ _ => asking, fun _ => asking, fun _ => asking⟩
  | reply client welcomed moved =>
      constructor
      · exact informed.toClient
      · intro invited
        rcases Client.invited_of_step (.controller (.reply (.ok .welcome))) role moved invited
          with earlier | ⟨cookie, read⟩
        · exact informed.client earlier
        · cases read
      · exact informed.opened
  | read message toClient client head moved =>
      have inbox := informed.toClient
      rw [head] at inbox
      constructor
      · intro cookie messageMem
        exact inbox cookie (List.mem_cons_of_mem _ messageMem)
      · intro invited
        rcases Client.invited_of_step (.controller (.clientRead (.ok message))) role moved
          invited with earlier | ⟨cookie, read⟩
        · exact informed.client earlier
        · cases read
          exact inbox cookie List.mem_cons_self
      · exact informed.opened
  | client event client toServer moved noConnect noReply noRead =>
      constructor
      · exact informed.toClient
      · intro invited
        rcases Client.invited_of_step event role moved invited with earlier | ⟨cookie, read⟩
        · exact informed.client earlier
        · exact absurd read (noRead _)
      · exact informed.opened
  | server event server toClient toServer moved noAccept writes =>
      constructor
      · intro cookie messageMem
        rcases writes with same | ⟨own, controller, written⟩
        · exact grows (informed.toClient cookie (same ▸ messageMem))
        · change .setState (.createStreams cookie) ∈ toClient at messageMem
          rw [written] at messageMem
          rcases List.mem_append.mp messageMem with old | new
          · exact grows (informed.toClient cookie old)
          · subst controller
            obtain ⟨test, testStep, result⟩ := Option.map_eq_some_iff.mp moved
            subst result
            exact ⟨cookie, announced_of_writes testStep new⟩
      · intro invited
        exact grows (informed.client invited)
      · intro opened
        exact grows (informed.opened opened)
  | accept index inbound server waiting moved =>
      exact ⟨fun cookie messageMem => grows (informed.toClient cookie messageMem),
        fun invited => grows (informed.client invited),
        fun opened => grows (informed.opened opened)⟩
  | stranger peer => exact ⟨informed.toClient, informed.client, informed.opened⟩

theorem informed_of_reachable {clientBuild serverBuild : Build} {cookie : String}
    {params : Parameters}
    (reachable : Reachable (Session.step json) (new clientBuild serverBuild cookie params)
      session) : session.Informed := by
  have both : session.Informed ∧ session.client.perf.role = .client := by
    apply reachable.invariant
      (fun session => session.Informed ∧ session.client.perf.role = .client) _
      ⟨new_informed clientBuild serverBuild cookie params, rfl⟩
    rintro source event target ⟨informed, role⟩ step
    constructor
    · exact informed.step role step
    · rcases client_of_step step with same | ⟨event, moved⟩
      · exact same ▸ role
      · rw [Client.perf_of_step moved]
        exact role
  exact both.1

end Session

end Iperf
