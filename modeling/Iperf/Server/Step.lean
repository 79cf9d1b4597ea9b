import Iperf.Controller.Frame
import Iperf.Server.Core

/-!
# What a step of the server can do

`AcceptMove` lists the outcomes of one step of the accept loop.  A step of the
server is one of these, a move of the controller, a move of a spawned task, or
the shutdown signal.
-/

namespace Iperf

open Channel

namespace Server

/-- The outcomes of one step of the accept loop. -/
inductive AcceptMove (json : Json) (server : Server) : ServerEvent → Server → Prop where
  | accept (inbound : Inbound) (pc : server.accept = .idle)
      (alive : server.test.alive = true) :
      AcceptMove json server (.accept inbound) { server with accept := .upgraded inbound }
  | lookCreateStreams (inbound : Inbound) (cookie : String)
      (pc : server.accept = .upgraded inbound) (unlocked : server.test.locked = false)
      (state : server.test.state = .createStreams cookie) :
      AcceptMove json server .look { server with
        test := { server.test with locked := true }
        accept := .reading inbound cookie }
  | lookOther (inbound : Inbound) (pc : server.accept = .upgraded inbound)
      (unlocked : server.test.locked = false)
      (state : ∀ cookie, server.test.state ≠ .createStreams cookie) :
      AcceptMove json server .look { server with accept := .refusing inbound false }
  | hello (inbound : Inbound) (cookie : String)
      (pc : server.accept = .reading inbound cookie)
      (read : readCookie json inbound.peer = .done (.ok cookie)) :
      AcceptMove json server .hello { server with accept := .welcoming inbound }
  | otherCookie (inbound : Inbound) (cookie clientCookie : String)
      (pc : server.accept = .reading inbound cookie)
      (read : readCookie json inbound.peer = .done (.ok clientCookie))
      (differs : clientCookie ≠ cookie) :
      AcceptMove json server .hello { server with accept := .refusing inbound true }
  | noHello (inbound : Inbound) (cookie : String) (error : Error)
      (pc : server.accept = .reading inbound cookie)
      (read : readCookie json inbound.peer = .done (.error error)) :
      AcceptMove json server .hello { server.unlock with accept := .failed error }
  | crash (inbound : Inbound) (cookie : String)
      (pc : server.accept = .reading inbound cookie)
      (read : readCookie json inbound.peer = .panicked) :
      AcceptMove json server .hello { server.unlock with accept := .stopped }
  | welcome (inbound : Inbound) (pc : server.accept = .welcoming inbound) :
      AcceptMove json server (.welcome true) { server with
        accept := .handingOff inbound
        replies := server.replies ++ [(inbound.stream, .welcome)] }
  | unwelcome (inbound : Inbound) (pc : server.accept = .welcoming inbound) :
      AcceptMove json server (.welcome false)
        { server.unlock with accept := .failed (.serverWriteError .ioError) }
  | handOff (inbound : Inbound) (mailbox : Queue ControllerMessage internalPortBuffer)
      (lost : List ControllerMessage) (pc : server.accept = .handingOff inbound)
      (posts : Controller.Posts server.test (.createStream inbound.stream) mailbox lost) :
      AcceptMove json server .handOff { server with
        test := { server.test with mailbox, lost, locked := false }
        accept := .idle }
  | refuse (inbound : Inbound) (holds delivered : Bool) (replies : List (TcpStream × Reply))
      (pc : server.accept = .refusing inbound holds)
      (answer : replies = server.replies ∨
        replies = server.replies ++ [(inbound.stream, .inFlight)]) :
      AcceptMove json server (.refuse delivered) { server with
        test := { server.test with locked := server.test.locked && !holds }
        accept := .idle
        replies }
  | terminate (error : Error) (mailbox : Queue ControllerMessage internalPortBuffer)
      (lost : List ControllerMessage) (pc : server.accept = .failed error)
      (posts : Controller.Posts server.test .terminate mailbox lost) :
      AcceptMove json server .terminate { server with
        test := { server.test with mailbox, lost }
        accept := .idle }
  | stop (pc : server.accept = .idle) (signalled : server.test.shutdown ≠ .quiet) :
      AcceptMove json server .stop { server with accept := .stopped }

/-- The outcomes of one step of the server. -/
inductive Move (json : Json) (server : Server) : ServerEvent → Server → Prop where
  | controller (event : ControllerEvent) (test : Controller)
      (move : Controller.Move server.test test) :
      Move json server (.controller event) { server with test }
  | task (index : Nat) (event : TaskEvent) (test : Controller)
      (move : Controller.TaskMove server.test index event test) :
      Move json server (.task index event) { server with test }
  | ctrlC (quiet : server.test.shutdown = .quiet) :
      Move json server .ctrlC
        { server with test := { server.test with shutdown := .signalled } }
  | accept (event : ServerEvent) (next : Server)
      (move : AcceptMove json server event next) : Move json server event next

private theorem move_of_look {json : Json} {server : Server} {inbound : Inbound}
    (pc : server.accept = .upgraded inbound) (unlocked : server.test.locked = false) :
    AcceptMove json server .look (server.look inbound) := by
  simp only [look]
  split
  · rename_i cookie state
    exact .lookCreateStreams inbound cookie pc unlocked state
  · rename_i state
    exact .lookOther inbound pc unlocked state

private theorem move_of_hello {json : Json} {server next : Server} {inbound : Inbound}
    {cookie : String} (pc : server.accept = .reading inbound cookie)
    (step : server.hello inbound cookie (readCookie json inbound.peer) = some next) :
    AcceptMove json server .hello next := by
  cases read : readCookie json inbound.peer with
  | waiting => simp [read, hello] at step
  | panicked =>
      rw [read] at step
      cases step
      exact .crash inbound cookie pc read
  | done result =>
      rw [read] at step
      cases result with
      | error error =>
          cases step
          exact .noHello inbound cookie error pc read
      | ok clientCookie =>
          simp only [hello] at step
          split at step
          · rename_i equal
            cases step
            subst equal
            exact .hello inbound clientCookie pc read
          · rename_i differs
            cases step
            exact .otherCookie inbound cookie clientCookie pc read differs

/-- Every step of the accept loop is one of the listed moves. -/
theorem acceptMove_of_acceptStep {json : Json} {server next : Server}
    {event : ServerEvent} (step : server.acceptStep json event = some next) :
    AcceptMove json server event next := by
  cases event with
  | controller event => simp [acceptStep] at step
  | task index event => simp [acceptStep] at step
  | ctrlC => simp [acceptStep] at step
  | accept inbound =>
      simp only [acceptStep] at step
      split at step
      · rename_i pc
        split at step
        · rename_i alive
          cases step
          exact .accept inbound pc alive
        · simp at step
      · simp at step
  | look =>
      simp only [acceptStep] at step
      split at step
      · rename_i inbound pc
        split at step
        · simp at step
        · rename_i unlocked
          cases step
          exact move_of_look pc (by simpa using unlocked)
      · simp at step
  | hello =>
      simp only [acceptStep] at step
      split at step
      · rename_i inbound cookie pc
        exact move_of_hello pc step
      · simp at step
  | welcome delivered =>
      simp only [acceptStep] at step
      split at step
      · rename_i inbound pc
        cases delivered with
        | true =>
            cases step
            exact .welcome inbound pc
        | false =>
            cases step
            exact .unwelcome inbound pc
      · simp at step
  | handOff =>
      simp only [acceptStep] at step
      split at step
      · rename_i inbound pc
        cases step
        obtain ⟨mailbox, lost, posts, posted⟩ :=
          Controller.trySend_eq server.test (.createStream inbound.stream)
        rw [posted]
        exact .handOff inbound mailbox lost pc posts
      · simp at step
  | refuse delivered =>
      simp only [acceptStep] at step
      split at step
      · rename_i inbound holds pc
        cases step
        apply AcceptMove.refuse inbound holds delivered _ pc
        cases delivered <;> simp
      · simp at step
  | terminate =>
      simp only [acceptStep] at step
      split at step
      · rename_i error pc
        cases step
        obtain ⟨mailbox, lost, posts, posted⟩ :=
          Controller.trySend_eq server.test .terminate
        rw [posted]
        exact .terminate error mailbox lost pc posts
      · simp at step
  | stop =>
      simp only [acceptStep] at step
      split at step
      · rename_i pc
        split at step
        · rename_i signalled
          cases step
          exact .stop pc signalled
        · simp at step
      · simp at step

/-- Every step of the server is one of the listed moves. -/
theorem move_of_step {json : Json} {server next : Server} {event : ServerEvent}
    (step : server.step json event = some next) : Move json server event next := by
  cases event with
  | controller event =>
      obtain ⟨test, moved, result⟩ := Option.map_eq_some_iff.mp step
      subst result
      exact .controller event test (Controller.move_of_controllerStep moved)
  | task index event =>
      obtain ⟨test, moved, result⟩ := Option.map_eq_some_iff.mp step
      subst result
      exact .task index event test (Controller.move_of_taskStep moved)
  | ctrlC =>
      simp only [Server.step, Controller.step] at step
      split at step
      · rename_i quiet
        cases step
        exact .ctrlC quiet
      · simp at step
  | accept inbound | look | hello | welcome delivered | handOff | refuse delivered
  | terminate | stop =>
      simp only [Server.step] at step
      exact .accept _ next (acceptMove_of_acceptStep step)

/-! ## What the accept loop does to the test -/

/-- The accept loop locks the test state and sends to the mailbox. -/
theorem AcceptMove.outside {json : Json} {server next : Server} {event : ServerEvent}
    (move : AcceptMove json server event next) : Controller.Outside server.test next.test := by
  cases move with
  | accept | lookCreateStreams | lookOther | hello | otherCookie | noHello | crash | welcome
  | unwelcome | handOff | refuse | terminate | stop =>
      exact Controller.outside_of_fields _ _ _ _ _

/-- What the accept loop sends to the mailbox. -/
theorem AcceptMove.accepted {json : Json} {server next : Server} {event : ServerEvent}
    (move : AcceptMove json server event next) :
    next.test.accepted = server.test.accepted ∨
      next.test.accepted = server.test.accepted ++ [.terminate] ∨
      ∃ inbound, server.accept = .handingOff inbound ∧
        next.test.accepted = server.test.accepted ++ [.createStream inbound.stream] := by
  cases move with
  | handOff inbound mailbox lost pc posts =>
      rcases posts.accepted with same | added
      · exact .inl same
      · exact .inr (.inr ⟨inbound, pc, added⟩)
  | terminate error mailbox lost pc posts =>
      rcases posts.accepted with same | added
      · exact .inl same
      · exact .inr (.inl added)
  | accept | lookCreateStreams | lookOther | hello | otherCookie | noHello | crash | welcome
  | unwelcome | refuse | stop => exact .inl rfl

/-- Only the controller announces. -/
theorem announced_of_step {json : Json} {server next : Server} {event : ServerEvent}
    (step : server.step json event = some next) :
    next.test.announced = server.test.announced ∨
      ∃ target, server.test.pc = .announcing target ∧
        next = { server with
          test := { server.test with
            announced := server.test.announced ++ [target]
            pc := .storing target } } := by
  cases move_of_step step with
  | controller event test move =>
      rcases move.announced with same | ⟨target, pc, result⟩
      · exact .inl same
      · exact .inr ⟨target, pc, by rw [result]⟩
  | task index event test move => exact .inl move.frame.announced
  | ctrlC quiet => exact .inl rfl
  | accept event next move => exact .inl move.outside.announced

/-! ## The test of a server is a controller among others -/

/-- Releasing the lock, or leaving it if nobody holds it. -/
private theorem run_release (controller : Controller) :
    ∃ events, Transition.run Controller.step controller events =
      some { controller with locked := false } := by
  cases locked : controller.locked with
  | true => exact ⟨[.release], by simp [Transition.run, Controller.step, locked]⟩
  | false => exact ⟨[], by rw [← locked]; rfl⟩

/-- But for the two steps that send to the mailbox, the accept loop takes the lock
and releases it. -/
private theorem AcceptMove.test_of_lock {json : Json} {server next : Server}
    {event : ServerEvent} (move : AcceptMove json server event next)
    (noHandOff : event ≠ .handOff) (noTerminate : event ≠ .terminate) :
    ∃ events, Transition.run Controller.step server.test events = some next.test := by
  cases move with
  | accept | lookOther | hello | otherCookie | welcome | stop => exact ⟨[], rfl⟩
  | lookCreateStreams inbound cookie pc unlocked state =>
      exact ⟨[.acquire], by simp [Transition.run, Controller.step, unlocked]⟩
  | noHello | crash | unwelcome => exact run_release server.test
  | refuse inbound holds delivered replies pc answer =>
      cases holds with
      | true =>
          simp only [Bool.not_true, Bool.and_false]
          exact run_release server.test
      | false =>
          simp only [Bool.not_false, Bool.and_true]
          exact ⟨[], rfl⟩
  | handOff => exact absurd rfl noHandOff
  | terminate => exact absurd rfl noTerminate

/-- Whatever the server does, its test takes steps of a controller whose lock and
mailbox are shared with others. -/
theorem test_of_step {json : Json} {server next : Server} {event : ServerEvent}
    (step : server.step json event = some next) :
    ∃ events, Transition.run Controller.step server.test events = some next.test := by
  have one : ∀ {event : Event}, server.test.step event = some next.test →
      ∃ events, Transition.run Controller.step server.test events = some next.test :=
    fun {event} moved => ⟨[event], (Transition.run_singleton _ _ _).trans moved⟩
  cases event with
  | controller event =>
      obtain ⟨test, moved, result⟩ := Option.map_eq_some_iff.mp step
      subst result
      exact @one (.controller event) moved
  | task index event =>
      obtain ⟨test, moved, result⟩ := Option.map_eq_some_iff.mp step
      subst result
      exact @one (.task index event) moved
  | ctrlC =>
      obtain ⟨test, moved, result⟩ := Option.map_eq_some_iff.mp step
      subst result
      exact @one .ctrlC moved
  | handOff =>
      simp only [Server.step, acceptStep] at step
      split at step
      · rename_i inbound pc
        cases step
        obtain ⟨events, released⟩ :=
          run_release (server.test.trySend (.createStream inbound.stream))
        exact ⟨.post (.createStream inbound.stream) :: events, released⟩
      · simp at step
  | terminate =>
      simp only [Server.step, acceptStep] at step
      split at step
      · cases step
        exact @one (.post .terminate) rfl
      · simp at step
  | accept inbound | look | hello | welcome delivered | refuse delivered | stop =>
      simp only [Server.step] at step
      exact (acceptMove_of_acceptStep step).test_of_lock (by simp) (by simp)

/-- What every step of a controller keeps, every run of its server keeps. -/
theorem test_invariant {json : Json} {start server : Server} {inv : Controller → Prop}
    (preserved : ∀ ⦃controller event next⦄, inv controller →
      Controller.step controller event = some next → inv next)
    (initial : inv start.test)
    (reachable : Transition.Reachable (Server.step json) start server) : inv server.test := by
  apply reachable.invariant (fun server => inv server.test) _ initial
  intro source event target holds step
  rcases test_of_step step with ⟨events, ran⟩
  exact Transition.run_invariant inv (fun _ _ _ holds _ step => preserved holds step) holds
    (Transition.guarded_true _ _ _) ran

end Server

end Iperf
