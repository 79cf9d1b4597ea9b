import Iperf.Client.Core

/-!
# The client's handshake

A stream of the client is registered when its `Hello` is answered, and the next
connection is opened after that.
-/

namespace Iperf

open Channel Transition

/-- The connection whose `Hello` has not been answered yet. -/
def Pc.awaited : Pc → Option TcpStream
  | .greeting _ stream => some stream
  | _ => none

namespace Client

open Controller

variable {client next : Controller}

/-- A connection is opened where the loop over the streams stands. -/
theorem connect_eq {stream : TcpStream}
    (step : client.controllerStep (.connect (.ok stream)) = some next) :
    ∃ total, client.pc = .connecting total ∧
      next = { client with pc := .greeting total stream } := by
  simp only [controllerStep] at step
  split at step
  · rename_i total other pc result
    cases result
    cases step
    exact ⟨total, pc, rfl⟩
  · rename_i result
    cases result
  · cases step

/-- The welcomed connection is registered, or the client is gone. -/
theorem reply_cases {message : ServerMessage}
    (step : client.controllerStep (.reply (.ok message)) = some next) :
    ∃ total stream, client.pc = .greeting total stream ∧
      ((next.tasks.map Task.stream = client.tasks.map Task.stream ++ [stream] ∧
        next.pc.awaited = none) ∨
      (next.tasks.map Task.stream = client.tasks.map Task.stream ∧ next.alive = false)) := by
  simp only [controllerStep] at step
  split at step
  · rename_i total stream other pc result
    refine ⟨total, stream, pc, ?_⟩
    have running : client.alive = true := by simp [alive, pc]
    have added : (client.tasks ++ [client.newTask stream]).map Task.stream =
        client.tasks.map Task.stream ++ [stream] := List.map_append
    rcases createAndRegisterStreamWorker_cases client stream with ⟨-, fine⟩ | gone | late
    · simp only [fine, register_alive, running, if_true, createStreamsLoop] at step
      split at step
      · cases step
        exact .inl ⟨added, rfl⟩
      · cases step
        exact .inl ⟨added, rfl⟩
    · simp only [gone, finish_alive, Bool.false_eq_true, if_false] at step
      cases step
      exact .inr ⟨rfl, rfl⟩
    · simp only [late, finish_alive, Bool.false_eq_true, if_false] at step
      cases step
      exact .inl ⟨added, rfl⟩
  · rename_i result
    cases result
  · cases step

/-- While a connection is being opened, only its outcome matters. -/
private theorem quiet_of_opening {event : ControllerEvent}
    (step : client.controllerStep event = some next)
    (opening : (∃ total, client.pc = .connecting total) ∨
      ∃ total stream, client.pc = .greeting total stream)
    (noConnect : ∀ stream, event ≠ .connect (.ok stream))
    (noReply : ∀ message, event ≠ .reply (.ok message)) :
    next.tasks = client.tasks ∧ next.alive = false := by
  rcases opening with ⟨total, pc⟩ | ⟨total, stream, pc⟩
  · cases event with
    | connect outcome =>
        cases outcome with
        | ok stream => exact absurd rfl (noConnect stream)
        | error error =>
            simp only [controllerStep, pc, Option.some.injEq] at step
            subst step
            exact ⟨rfl, rfl⟩
    | _ => simp [controllerStep, pc] at step
  · cases event with
    | reply outcome =>
        cases outcome with
        | ok message => exact absurd rfl (noReply message)
        | error error =>
            simp only [controllerStep, pc, Option.some.injEq] at step
            subst step
            exact ⟨rfl, rfl⟩
    | _ => simp [controllerStep, pc] at step

/-- Elsewhere no stream is opened or registered. -/
private theorem quiet_move (role : client.perf.role = .client)
    (move : Controller.Move client next) (noConnecting : ∀ total, client.pc ≠ .connecting total)
    (noGreeting : ∀ total stream, client.pc ≠ .greeting total stream) :
    next.tasks = client.tasks ∧ next.pc.awaited = none := by
  cases move with
  | greet total stream pc => exact absurd pc (noConnecting total)
  | greeted total stream pc => exact absurd pc (noGreeting total stream)
  | recvCreate stream mailbox total pc server head needed =>
      rw [role] at server
      cases server
  | createStreams pc server =>
      rw [role] at server
      cases server
  | close next closes =>
      constructor
      · exact closes.tasks
      · have after := closes.after
        cases pc : next.pc <;> simp_all [Pc.Closing, Pc.awaited]
  | finish next ends =>
      obtain ⟨ending, pc⟩ := ends.pc
      rw [pc]
      constructor
      · rcases ends.tasks with same | ⟨stream, -, ⟨total, greeting⟩ | ⟨-, server, -⟩⟩
        · exact same
        · exact absurd greeting (noGreeting total stream)
        · rw [role] at server
          cases server
      · exact rfl
  | recvStray id mailbox pc head missing =>
      constructor
      · exact rfl
      · rw [afterTerminatedPc_client role]
        rfl
  | join id index results task pc found ended =>
      constructor
      · exact rfl
      · rw [afterTerminatedPc_client role]
        rfl
  | recvTerminate mailbox pc head =>
      constructor
      · exact rfl
      · rw [setStatePc_client role]
        rfl
  | shutdown pc signalled =>
      constructor
      · exact rfl
      · rw [setStatePc_client role]
        rfl
  | _ => exact ⟨rfl, rfl⟩

/-- The streams change only as a connection is opened or answered. -/
theorem streams_of_step {event : ClientEvent} (role : client.perf.role = .client)
    (step : Client.step client event = some next)
    (noConnect : ∀ stream, event ≠ .controller (.connect (.ok stream)))
    (noReply : ∀ message, event ≠ .controller (.reply (.ok message))) :
    next.tasks.map Task.stream = client.tasks.map Task.stream ∧
      (next.alive = true → client.alive = true ∧ next.pc.awaited = client.pc.awaited) := by
  cases event with
  | controller event =>
      have move := move_of_controllerStep step
      by_cases opening : (∃ total, client.pc = .connecting total) ∨
          ∃ total stream, client.pc = .greeting total stream
      · obtain ⟨tasks, gone⟩ := quiet_of_opening step opening
          (fun stream same => noConnect stream (congrArg _ same))
          (fun message same => noReply message (congrArg _ same))
        constructor
        · exact congrArg _ tasks
        · intro stays
          rw [gone] at stays
          cases stays
      · rw [not_or] at opening
        obtain ⟨tasks, none⟩ := quiet_move role move
          (fun total pc => opening.1 ⟨total, pc⟩)
          (fun total stream pc => opening.2 ⟨total, stream, pc⟩)
        refine ⟨congrArg _ tasks, fun _ => ⟨move.alive, ?_⟩⟩
        rw [none]
        unfold Pc.awaited
        split
        · rename_i total stream pc
          exact absurd ⟨total, stream, pc⟩ opening.2
        · rfl
  | task index event =>
      have move := move_of_taskStep step
      constructor
      · exact move.streams
      · unfold alive
        rw [move.frame.pc]
        exact fun stays => ⟨stays, rfl⟩
  | ctrlC =>
      cases move_of_step step with
      | ctrlC quiet => exact ⟨rfl, fun stays => ⟨stays, rfl⟩⟩

end Client

end Iperf
