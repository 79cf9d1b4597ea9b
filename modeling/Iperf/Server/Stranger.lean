import Iperf.Controller.Lock
import Iperf.Server.Admission

/-!
# Connections that do not present the cookie

Outside `CreateStreams` a stranger is told that a test is in flight, and nothing
else happens.  In `CreateStreams` the accept loop reads its `Hello` first: a
wrong cookie is refused as well, but any other end of that read is reported to
the controller as `Terminate`, and a read that does not end keeps the lock.
-/

namespace Iperf

open Channel Transition

/-- A step of the accept loop between taking a connection and waiting for the
next one. -/
def ServerEvent.handles : ServerEvent → Bool
  | .look => true
  | .hello => true
  | .welcome _ => true
  | .handOff => true
  | .refuse _ => true
  | .terminate => true
  | _ => false

/-- A step of the test itself, or the shutdown signal. -/
def ServerEvent.own : ServerEvent → Bool
  | .controller _ => true
  | .task _ _ => true
  | .ctrlC => true
  | _ => false

/-- No connection of a stranger. -/
def ServerEvent.Familiar (json : Json) (cookie : String) (event : ServerEvent) : Prop :=
  ∀ inbound, event = .accept inbound → inbound.presents json cookie = true

namespace Server

/-- The accept loop deals with its connection to the end, while nobody else
moves. -/
def Handled (json : Json) (server target : Server) : Prop :=
  ∃ events : List ServerEvent, (∀ event ∈ events, event.handles = true) ∧
    run (Server.step json) server events = some target ∧ target.accept = .idle

/-- The connection can be dealt with, and however that goes the test is the same
afterwards. -/
def Untouched (json : Json) (server : Server) : Prop :=
  (∃ target, server.Handled json target) ∧
    ∀ target, server.Handled json target → target.test = server.test

/-- The test is not in `CreateStreams`, or the connection opens with some
`Hello`. -/
def Harmless (json : Json) (server : Server) (inbound : Inbound) : Prop :=
  (∀ cookie, server.test.state ≠ .createStreams cookie) ∨
    ∃ clientCookie, readCookie json inbound.peer = .done (.ok clientCookie)

/-- A stranger that is looked at is harmless at that moment. -/
def Peaceful (json : Json) (server : Server) (event : ServerEvent) : Prop :=
  ∀ inbound, event = .look → server.accept = .upgraded inbound →
    inbound.presents json server.test.perf.cookie = false → server.Harmless json inbound

/-- The accept loop deals with a connection that it is not going to welcome. -/
inductive Apart (json : Json) (server : Server) : Prop where
  | upgraded (inbound : Inbound) (pc : server.accept = .upgraded inbound)
      (stranger : inbound.presents json server.test.perf.cookie = false)
  | reading (inbound : Inbound) (cookie clientCookie : String)
      (pc : server.accept = .reading inbound cookie)
      (read : readCookie json inbound.peer = .done (.ok clientCookie))
      (differs : clientCookie ≠ cookie)
  | refusing (inbound : Inbound) (holds : Bool) (pc : server.accept = .refusing inbound holds)

variable {json : Json} {server next image : Server} {event : ServerEvent}

/-- Between two connections nobody holds the lock. -/
theorem Phased.unlocked_of_idle (phased : server.Phased) (pc : server.accept = .idle) :
    server.test.unlocked = server.test := by
  apply Controller.unlocked_of_free
  rw [phased.locked, pc]
  rfl

private theorem Apart.look (phased : server.Phased) {inbound : Inbound} {cookie : String}
    (harmless : server.Harmless json inbound)
    (stranger : inbound.presents json server.test.perf.cookie = false)
    (state : server.test.state = .createStreams cookie) :
    ∃ clientCookie, readCookie json inbound.peer = .done (.ok clientCookie) ∧
      clientCookie ≠ cookie := by
  rcases harmless with elsewhere | ⟨clientCookie, read⟩
  · exact absurd state (elsewhere cookie)
  · refine ⟨clientCookie, read, ?_⟩
    rintro rfl
    rw [phased.test.cookie clientCookie state] at read
    rw [Inbound.presents_iff.mpr read] at stranger
    simp at stranger

/-- Dealing with such a connection changes the lock at most. -/
theorem Apart.acceptMove (apart : server.Apart json) (phased : server.Phased)
    (peaceful : server.Peaceful json event) (move : AcceptMove json server event next) :
    next.test.unlocked = server.test.unlocked ∧ next.welcomed = server.welcomed ∧
      (next.Apart json ∨ next.accept = .idle) := by
  cases apart with
  | upgraded inbound pc stranger =>
      cases move with
      | lookCreateStreams other cookie otherPc unlocked state =>
          cases pc.symm.trans otherPc
          obtain ⟨clientCookie, read, differs⟩ :=
            Apart.look phased (peaceful inbound rfl pc stranger) stranger state
          exact ⟨rfl, rfl, .inl (.reading inbound cookie clientCookie rfl read differs)⟩
      | lookOther other otherPc unlocked state =>
          exact ⟨rfl, rfl, .inl (.refusing other false rfl)⟩
      | accept | hello | otherCookie | noHello | crash | welcome | unwelcome | handOff
      | refuse | terminate | stop => simp_all
  | reading inbound cookie clientCookie pc read differs =>
      cases move with
      | otherCookie other cookie clientCookie otherPc read differs =>
          exact ⟨rfl, rfl, .inl (.refusing other true rfl)⟩
      | accept | lookCreateStreams | lookOther | hello | noHello | crash | welcome
      | unwelcome | handOff | refuse | terminate | stop => simp_all
  | refusing inbound holds pc =>
      cases move with
      | refuse other holds delivered replies otherPc answer =>
          refine ⟨rfl, ?_, .inr rfl⟩
          rcases answer with same | added
          · simp only [Server.welcomed, same]
          · simp [Server.welcomed, added, Reply.welcomedStream]
      | accept | lookCreateStreams | lookOther | hello | otherCookie | noHello | crash
      | welcome | unwelcome | handOff | terminate | stop => simp_all

/-! ## One connection -/

private theorem acceptMove_of_handles (handles : event.handles = true)
    (step : server.step json event = some next) : AcceptMove json server event next := by
  cases move_of_step step with
  | controller | task | ctrlC => simp [ServerEvent.handles] at handles
  | accept event next move => exact move

private theorem AcceptMove.not_upgraded (move : AcceptMove json server event next)
    (handles : event.handles = true) (inbound : Inbound) :
    next.accept ≠ .upgraded inbound := by
  cases move with
  | accept => simp [ServerEvent.handles] at handles
  | lookCreateStreams | lookOther | hello | otherCookie | noHello | crash | welcome
  | unwelcome | handOff | refuse | terminate | stop => simp

private theorem guarded_of_handles {events : List ServerEvent} (json : Json)
    (all : ∀ event ∈ events, event.handles = true) (server : Server) :
    Guarded (Server.step json) (fun _ event => event.handles = true) server events := by
  induction events generalizing server with
  | nil => trivial
  | cons event events ih =>
      constructor
      · exact all event List.mem_cons_self
      · intro middle step
        exact ih (fun later laterMem => all later (List.mem_cons_of_mem event laterMem)) middle

private theorem Handled.of_step {target : Server} (handles : event.handles = true)
    (step : server.step json event = some next) (handled : next.Handled json target) :
    server.Handled json target := by
  obtain ⟨events, all, finished, idle⟩ := handled
  refine ⟨event :: events, ?_, (run_cons_of_step step events).trans finished, idle⟩
  intro member memberMem
  rcases List.mem_cons.mp memberMem with rfl | laterMem
  · exact handles
  · exact all member laterMem

private theorem handled_of_refusing {inbound : Inbound} {holds : Bool}
    (pc : server.accept = .refusing inbound holds) :
    ∃ target, server.Handled json target := by
  have step : server.step json (.refuse true) = some { server with
      test := { server.test with locked := server.test.locked && !holds }
      accept := .idle
      replies := server.replies ++ [(inbound.stream, .inFlight)] } := by
    simp only [Server.step, acceptStep, pc, if_true]
  refine ⟨_, Handled.of_step rfl step ⟨[], ?_, rfl, rfl⟩⟩
  exact fun event eventMem => absurd eventMem List.not_mem_nil

/-- A harmless stranger is refused in the end. -/
theorem Phased.handled (phased : server.Phased) {inbound : Inbound}
    (pc : server.accept = .upgraded inbound)
    (stranger : inbound.presents json server.test.perf.cookie = false)
    (harmless : server.Harmless json inbound) : ∃ target, server.Handled json target := by
  have unlocked : server.test.locked = false := by
    rw [phased.locked, pc]
    rfl
  have looks : server.step json .look = some (server.look inbound) := by
    simp only [Server.step, acceptStep, pc, unlocked, Bool.false_eq_true, if_false]
  have refused : ∀ seen : Server, server.step json .look = some seen →
      (∃ target, seen.Handled json target) → ∃ target, server.Handled json target := by
    rintro seen step ⟨target, handled⟩
    exact ⟨target, handled.of_step rfl step⟩
  cases state : server.test.state with
  | createStreams cookie =>
      obtain ⟨clientCookie, read, differs⟩ := Apart.look phased harmless stranger state
      have seen : server.look inbound = { server with
          test := { server.test with locked := true }
          accept := .reading inbound cookie } := by
        unfold look
        split
        · rename_i found
          cases state.symm.trans found
          rfl
        · rename_i other
          exact absurd state (other cookie)
      rw [seen] at looks
      apply refused _ looks
      have hears : Server.step json { server with
          test := { server.test with locked := true }
          accept := .reading inbound cookie } .hello = some { server with
          test := { server.test with locked := true }
          accept := .refusing inbound true } := by
        simp only [Server.step, acceptStep, hello, read, differs, if_false]
      obtain ⟨target, handled⟩ := @handled_of_refusing json { server with
          test := { server.test with locked := true }
          accept := .refusing inbound true } inbound true rfl
      exact ⟨target, handled.of_step rfl hears⟩
  | start | running | exchangeResults | terminate =>
      simp only [look, state] at looks
      exact refused _ looks (handled_of_refusing rfl)

/-- Dealing with a harmless stranger. -/
private structure Passing (json : Json) (source server : Server) : Prop where
  phased : server.Phased
  same : server.test.unlocked = source.test.unlocked
  apart : server.Apart json ∨ server.accept = .idle
  harmless : ∀ inbound, server.accept = .upgraded inbound → server.Harmless json inbound

private theorem Passing.step {source : Server} (passing : Passing json source server)
    (handles : event.handles = true) (step : server.step json event = some next) :
    Passing json source next := by
  have move := acceptMove_of_handles handles step
  rcases passing.apart with apart | idle
  · obtain ⟨same, -, stays⟩ := apart.acceptMove passing.phased
      (fun inbound _ pc _ => passing.harmless inbound pc) move
    exact ⟨passing.phased.step step, same.trans passing.same, stays,
      fun inbound pc => absurd pc (move.not_upgraded handles inbound)⟩
  · cases move with
    | accept | stop => simp [ServerEvent.handles] at handles
    | lookCreateStreams | lookOther | hello | otherCookie | noHello | crash | welcome
    | unwelcome | handOff | refuse | terminate => simp_all

/-- A harmless stranger leaves the test as it was. -/
theorem Phased.untouched (phased : server.Phased) {inbound : Inbound}
    (pc : server.accept = .upgraded inbound)
    (stranger : inbound.presents json server.test.perf.cookie = false)
    (harmless : server.Harmless json inbound) : server.Untouched json := by
  constructor
  · exact phased.handled pc stranger harmless
  · rintro target ⟨events, all, finished, idle⟩
    have initial : Passing json server server := by
      refine ⟨phased, rfl, .inl (.upgraded inbound pc stranger), ?_⟩
      intro other otherPc
      cases pc.symm.trans otherPc
      exact harmless
    have passing := run_invariant (Passing json server)
      (fun _ _ _ passing handles step => passing.step handles step) initial
      (guarded_of_handles json all server) finished
    have unlocked : server.test.locked = false := by
      rw [phased.locked, pc]
      rfl
    rw [← passing.phased.unlocked_of_idle idle, passing.same]
    exact Controller.unlocked_of_free unlocked

/-- Dealing with a stranger whose `Hello` cannot be read, in `CreateStreams`. -/
private inductive Failing (source : Server) (inbound : Inbound) (server : Server) : Prop where
  | start (same : server = source)
  | reading (cookie : String) (pc : server.accept = .reading inbound cookie)
      (same : server.test.unlocked = source.test)
  | failed (error : Error) (pc : server.accept = .failed error)
      (same : server.test = source.test)
  | stopped (pc : server.accept = .stopped)
  | disturbed (pc : server.accept = .idle) (differs : server.test ≠ source.test)

private theorem Failing.step {source : Server} {inbound : Inbound}
    (failing : Failing source inbound server) (unlocked : source.test.locked = false)
    (pc : source.accept = .upgraded inbound) (alive : source.test.alive = true)
    (harmful : ¬ source.Harmless json inbound) (handles : event.handles = true)
    (step : server.step json event = some next) : Failing source inbound next := by
  simp only [Harmless, not_or, not_forall, not_not, not_exists] at harmful
  obtain ⟨⟨cookie, state⟩, unread⟩ := harmful
  have move := acceptMove_of_handles handles step
  cases failing with
  | start same =>
      subst same
      cases move with
      | lookCreateStreams other otherCookie otherPc =>
          cases pc.symm.trans otherPc
          exact .reading otherCookie rfl (Controller.unlocked_of_free unlocked)
      | accept | lookOther | hello | otherCookie | noHello | crash | welcome | unwelcome
      | handOff | refuse | terminate | stop => simp_all
  | reading expected readPc same =>
      cases move with
      | noHello other otherCookie error otherPc read => exact .failed error rfl same
      | crash => exact .stopped rfl
      | hello other otherCookie otherPc read =>
          cases readPc.symm.trans otherPc
          exact absurd read (unread expected)
      | otherCookie other otherCookie clientCookie otherPc read =>
          cases readPc.symm.trans otherPc
          exact absurd read (unread clientCookie)
      | accept | lookCreateStreams | lookOther | welcome | unwelcome | handOff | refuse
      | terminate | stop => simp_all
  | failed error failedPc same =>
      cases move with
      | terminate other mailbox lost otherPc posts =>
          apply Failing.disturbed rfl
          intro unchanged
          cases posts with
          | sent running items kept =>
              have same : mailbox = server.test.mailbox := by
                rw [same]
                exact congrArg Controller.mailbox unchanged
              simp [same] at items
          | full running full kept logged =>
              have same : lost = server.test.lost := by
                rw [same]
                exact congrArg Controller.lost unchanged
              simp [same] at logged
          | gone gone =>
              rw [same, alive] at gone
              simp at gone
      | accept | lookCreateStreams | lookOther | hello | otherCookie | noHello | crash
      | welcome | unwelcome | handOff | refuse | stop => simp_all
  | stopped stoppedPc => cases move <;> simp_all
  | disturbed idle differs =>
      cases move with
      | accept | stop => simp [ServerEvent.handles] at handles
      | lookCreateStreams | lookOther | hello | otherCookie | noHello | crash | welcome
      | unwelcome | handOff | refuse | terminate => simp_all

/-- A stranger leaves a test in flight alone exactly if it is harmless. -/
theorem Phased.untouched_iff (phased : server.Phased) {inbound : Inbound}
    (pc : server.accept = .upgraded inbound) (alive : server.test.alive = true)
    (stranger : inbound.presents json server.test.perf.cookie = false) :
    server.Untouched json ↔ server.Harmless json inbound := by
  constructor
  · rintro ⟨⟨target, events, all, finished, idle⟩, untouched⟩
    have same := untouched target ⟨events, all, finished, idle⟩
    by_contra harmful
    have unlocked : server.test.locked = false := by
      rw [phased.locked, pc]
      rfl
    have failing := run_invariant (Failing server inbound)
      (fun _ _ _ failing handles step =>
        failing.step unlocked pc alive harmful handles step)
      (.start rfl) (guarded_of_handles json all server) finished
    cases failing with
    | start same =>
        rw [same, pc] at idle
        simp at idle
    | reading cookie readPc =>
        rw [readPc] at idle
        simp at idle
    | failed error failedPc =>
        rw [failedPc] at idle
        simp at idle
    | stopped stoppedPc =>
        rw [stoppedPc] at idle
        simp at idle
    | disturbed idle differs => exact differs same
  · exact phased.untouched pc stranger

/-! ## Whole runs -/

/-- The accept loop does not look at the answers it has given. -/
theorem acceptStep_replies (replies : List (TcpStream × Reply))
    (step : server.acceptStep json event = some next) :
    ∃ answers, acceptStep json { server with replies } event =
        some { next with replies := answers } ∧
      (replies.filterMap Reply.welcomedStream = server.welcomed →
        answers.filterMap Reply.welcomedStream = next.welcomed) := by
  cases event with
  | controller | task | ctrlC => simp [acceptStep] at step
  | accept inbound =>
      simp only [acceptStep] at step ⊢
      split at step
      · split at step
        · rename_i alive
          cases step
          exact ⟨replies, by rw [if_pos alive], id⟩
        · simp at step
      · simp at step
  | look =>
      simp only [acceptStep] at step ⊢
      split at step
      · rename_i inbound pc
        split at step
        · simp at step
        · rename_i unlocked
          cases step
          simp only [unlocked, Bool.false_eq_true, if_false, look]
          cases server.test.state <;> exact ⟨replies, rfl, id⟩
      · simp at step
  | hello =>
      simp only [acceptStep] at step ⊢
      split at step
      · rename_i inbound cookie pc
        cases read : readCookie json inbound.peer with
        | waiting => simp [read, hello] at step
        | panicked =>
            rw [read] at step
            cases step
            exact ⟨replies, rfl, id⟩
        | done result =>
            rw [read] at step
            cases result with
            | error error =>
                cases step
                exact ⟨replies, rfl, id⟩
            | ok clientCookie =>
                simp only [hello] at step ⊢
                split at step
                · rename_i equal
                  cases step
                  exact ⟨replies, by rw [if_pos equal], id⟩
                · rename_i differs
                  cases step
                  exact ⟨replies, by rw [if_neg differs], id⟩
      · simp at step
  | welcome delivered =>
      simp only [acceptStep] at step ⊢
      split at step
      · rename_i inbound pc
        cases delivered with
        | true =>
            cases step
            refine ⟨replies ++ [(inbound.stream, .welcome)], rfl, ?_⟩
            intro same
            rw [List.filterMap_append, same]
            exact List.filterMap_append.symm
        | false =>
            cases step
            exact ⟨replies, rfl, id⟩
      · simp at step
  | handOff =>
      simp only [acceptStep] at step ⊢
      split at step
      · cases step
        exact ⟨replies, rfl, id⟩
      · simp at step
  | refuse delivered =>
      simp only [acceptStep] at step ⊢
      split at step
      · rename_i inbound holds pc
        cases step
        refine ⟨_, rfl, ?_⟩
        intro same
        cases delivered with
        | true => simp [Server.welcomed, same, Reply.welcomedStream]
        | false => exact same
      · simp at step
  | terminate =>
      simp only [acceptStep] at step ⊢
      split at step
      · cases step
        exact ⟨replies, rfl, id⟩
      · simp at step
  | stop =>
      simp only [acceptStep] at step ⊢
      split at step
      · split at step
        · rename_i signalled
          cases step
          exact ⟨replies, by rw [if_pos signalled], id⟩
        · simp at step
      · simp at step

/-- A server and its image, which has never met a stranger: they are equal but
for the answers, or the server is busy with a stranger. -/
structure Shadow (json : Json) (server image : Server) : Prop where
  phased : server.Phased
  welcomed : image.welcomed = server.welcomed
  position : (image.accept = server.accept ∧ image.test = server.test) ∨
    (server.Apart json ∧ image.accept = .idle ∧ image.test = server.test.unlocked)

theorem Shadow.unlocked (shadow : server.Shadow json image) :
    image.test.unlocked = server.test.unlocked := by
  rcases shadow.position with ⟨-, same⟩ | ⟨-, -, same⟩
  · rw [same]
  · rw [same]
    rfl

theorem Shadow.perf (shadow : server.Shadow json image) :
    image.test.perf = server.test.perf := by
  rw [← Controller.unlocked_perf image.test, shadow.unlocked, Controller.unlocked_perf]

theorem Apart.congr (apart : server.Apart json) (accept : next.accept = server.accept)
    (perf : next.test.perf = server.test.perf) : next.Apart json := by
  cases apart with
  | upgraded inbound pc stranger =>
      exact .upgraded inbound (accept.trans pc) (by rwa [perf])
  | reading inbound cookie clientCookie pc read differs =>
      exact .reading inbound cookie clientCookie (accept.trans pc) read differs
  | refusing inbound holds pc => exact .refusing inbound holds (accept.trans pc)

/-- A step of the test is repeated. -/
private theorem Shadow.ownStep (shadow : server.Shadow json image) {test : Controller}
    (phased : Server.Phased { server with test })
    (perf : test.perf = server.test.perf) (step : Controller → Option Controller)
    (unlocked : step server.test.unlocked = some test.unlocked)
    (moved : step server.test = some test) :
    ∃ image' : Server, (step image.test).map (fun test => { image with test }) = some image' ∧
      Shadow json { server with test } image' := by
  rcases shadow.position with ⟨accept, same⟩ | ⟨apart, idle, same⟩
  · refine ⟨{ image with test }, ?_, phased, shadow.welcomed, .inl ⟨accept, rfl⟩⟩
    rw [same, moved]
    rfl
  · refine ⟨{ image with test := test.unlocked }, ?_, phased, shadow.welcomed,
      .inr ⟨apart.congr rfl perf, idle, rfl⟩⟩
    rw [same, unlocked]
    rfl

/-- A step of the accept loop is repeated, unless it has to do with a stranger. -/
private theorem Shadow.acceptStep (shadow : server.Shadow json image)
    (peaceful : server.Peaceful json event) (invisible : event.own = false)
    (phased : next.Phased) (move : AcceptMove json server event next)
    (step : server.acceptStep json event = some next) :
    (event.Familiar json image.test.perf.cookie ∧
      ∃ image', image.acceptStep json event = some image' ∧ next.Shadow json image') ∨
    (event.own = false ∧ next.Shadow json image) := by
  rcases shadow.position with ⟨accept, same⟩ | ⟨apart, idle, same⟩
  · by_cases stranger : ∃ inbound, event = .accept inbound ∧
        inbound.presents json server.test.perf.cookie = false
    · obtain ⟨inbound, rfl, foreign⟩ := stranger
      cases move with
      | accept inbound pc alive =>
          have unlocked := shadow.phased.unlocked_of_idle pc
          exact .inr ⟨rfl, phased, shadow.welcomed, .inr ⟨.upgraded inbound rfl foreign,
            accept.trans pc, same.trans unlocked.symm⟩⟩
    · left
      constructor
      · rintro inbound rfl
        by_contra foreign
        rw [same] at foreign
        exact stranger ⟨inbound, rfl, by simpa using foreign⟩
      · obtain ⟨answers, repeated, welcomed⟩ := acceptStep_replies image.replies step
        have equal : { server with replies := image.replies } = image := by
          rw [← accept, ← same]
        rw [equal] at repeated
        exact ⟨_, repeated, phased, welcomed shadow.welcomed, .inl ⟨rfl, rfl⟩⟩
  · obtain ⟨unlocked, welcomed, stays⟩ := apart.acceptMove shadow.phased peaceful move
    right
    refine ⟨invisible, phased, shadow.welcomed.trans welcomed.symm, ?_⟩
    rcases stays with stays | done
    · exact .inr ⟨stays, idle, same.trans unlocked.symm⟩
    · refine .inl ⟨idle.trans done.symm, ?_⟩
      rw [same, ← unlocked, phased.unlocked_of_idle done]

private theorem Shadow.step (shadow : server.Shadow json image)
    (peaceful : server.Peaceful json event) (step : server.step json event = some next) :
    (event.Familiar json image.test.perf.cookie ∧
      ∃ image', image.step json event = some image' ∧ next.Shadow json image') ∨
    (event.own = false ∧ next.Shadow json image) := by
  have phased := shadow.phased.step step
  cases event with
  | controller event =>
      obtain ⟨test, moved, result⟩ := Option.map_eq_some_iff.mp step
      subst result
      refine .inl ⟨fun inbound same => by simp at same, ?_⟩
      exact shadow.ownStep phased (Controller.move_of_controllerStep moved).perf
        (fun test => test.controllerStep event) (Controller.controllerStep_unlocked moved) moved
  | task index event =>
      obtain ⟨test, moved, result⟩ := Option.map_eq_some_iff.mp step
      subst result
      refine .inl ⟨fun inbound same => by simp at same, ?_⟩
      exact shadow.ownStep phased (Controller.move_of_taskStep moved).frame.perf
        (fun test => test.taskStep index event) (Controller.taskStep_unlocked moved) moved
  | ctrlC =>
      obtain ⟨test, moved, result⟩ := Option.map_eq_some_iff.mp step
      subst result
      refine .inl ⟨fun inbound same => by simp at same, ?_⟩
      apply shadow.ownStep phased _ (fun test => test.step .ctrlC) _ moved
      · simp only [Controller.step] at moved
        split at moved
        · cases moved
          rfl
        · simp at moved
      · simp only [Controller.step, Controller.unlocked_shutdown] at moved ⊢
        split at moved
        · rename_i quiet
          cases moved
          simp only [quiet, if_true]
          rfl
        · simp at moved
  | accept | look | hello | welcome | handOff | refuse | terminate | stop =>
      exact shadow.acceptStep peaceful rfl phased (acceptMove_of_acceptStep step) step

/-- A stranger leaves a test in flight alone exactly if, where it is looked at in
`CreateStreams`, it opens with some `Hello`.  In a run whose strangers all do so
the test goes through the same steps to the same state as in a run without
them, and the same connections are welcomed. -/
theorem strangers_leave_untouched (json : Json) (build : Build) (cookie : String)
    (params : Parameters) {events : List ServerEvent} {server : Server}
    (finished : run (Server.step json)
      (new build (Perf.newWithStatsReceiver cookie .server params)) events = some server) :
    (∀ inbound, server.accept = .upgraded inbound → server.test.alive = true →
      inbound.presents json cookie = false →
      (server.Untouched json ↔ server.Harmless json inbound)) ∧
    (Guarded (Server.step json) (Peaceful json)
      (new build (Perf.newWithStatsReceiver cookie .server params)) events →
      ∃ events' image, events'.Sublist events ∧
        (∀ event ∈ events', event.Familiar json cookie) ∧
        events'.filter ServerEvent.own = events.filter ServerEvent.own ∧
        run (Server.step json)
          (new build (Perf.newWithStatsReceiver cookie .server params)) events' = some image ∧
        image.test.unlocked = server.test.unlocked ∧ image.welcomed = server.welcomed) := by
  have phased := (sound_of_reachable rfl ⟨events, finished⟩).phased
  have perf := perf_of_run finished
  constructor
  · intro inbound pc alive stranger
    apply phased.untouched_iff pc alive
    rwa [perf]
  · intro peaceful
    let related : Server → Server → Prop := fun server image =>
      server.Shadow json image ∧ server.test.perf.cookie = cookie
    have initial : related (new build (Perf.newWithStatsReceiver cookie .server params))
        (new build (Perf.newWithStatsReceiver cookie .server params)) :=
      ⟨⟨new_phased build rfl, rfl, .inl ⟨rfl, rfl⟩⟩, rfl⟩
    obtain ⟨events', image, sublist, familiar, same, ran, shadow, -⟩ :=
      run_erasure ServerEvent.own (fun event => event.Familiar json cookie) related
        (fun source event target image ⟨shadow, own⟩ peaceful step => by
          have later : target.test.perf.cookie = cookie := by rw [perf_of_step step, own]
          rcases shadow.step peaceful step with ⟨familiar, image', moved, shadowed⟩ |
            ⟨invisible, shadowed⟩
          · rw [shadow.perf, own] at familiar
            exact .inl ⟨familiar, image', moved, shadowed, later⟩
          · exact .inr ⟨invisible, shadowed, later⟩)
        initial peaceful finished
    exact ⟨events', image, sublist, familiar, same, ran, shadow.unlocked, shadow.welcomed⟩

/-- A connection that is closed without a word. -/
def silent : Inbound :=
  ⟨⟨7⟩, ⟨[], true⟩⟩

theorem strangers_leave_untouched_one :
    ∃ server events' image,
      run (Server.step (.ofCookie "c")) (sample 1) [.accept silent, .look, .refuse true] =
        some server ∧
      server.replies = [(⟨7⟩, .inFlight)] ∧
      (∀ event ∈ events', event.Familiar (.ofCookie "c") "c") ∧
      run (Server.step (.ofCookie "c")) (sample 1) events' = some image ∧
      image.test.unlocked = server.test.unlocked := by
  let events : List ServerEvent := [.accept silent, .look, .refuse true]
  have observed : (run (Server.step (.ofCookie "c")) (sample 1) events).map Server.replies =
      some [(⟨7⟩, .inFlight)] := rfl
  obtain ⟨server, finished, replies⟩ := Option.map_eq_some_iff.mp observed
  have peaceful : Guarded (Server.step (.ofCookie "c")) (Peaceful (.ofCookie "c")) (sample 1)
      events := by
    refine ⟨fun inbound same => by simp at same, fun middle step => ?_⟩
    cases step
    refine ⟨fun inbound _ _ _ => .inl fun cookie state => ?_, fun middle step => ?_⟩
    · simp [sample, new, Controller.new] at state
    · cases step
      exact ⟨fun inbound same => by simp at same, fun _ _ => trivial⟩
  obtain ⟨events', image, -, familiar, -, ran, same, -⟩ :=
    (strangers_leave_untouched (.ofCookie "c") ⟨true, true⟩ "c" (.fromOpts {}) finished).2
      peaceful
  exact ⟨server, events', image, finished, replies, familiar, ran, same⟩

/-- A connection that is closed without a word during `CreateStreams` makes the
accept loop send `Terminate` to the controller. -/
theorem stranger_terminates_test :
    ∃ server target, Reachable (Server.step (.ofCookie "c")) (sample 1) server ∧
      server.accept = .upgraded silent ∧ server.test.alive = true ∧
      silent.presents (.ofCookie "c") server.test.perf.cookie = false ∧
      server.Handled (.ofCookie "c") target ∧
      server.test.mailbox.items = [] ∧ target.test.mailbox.items = [.terminate] := by
  let observe : Server → AcceptPc × Bool × String × List ControllerMessage := fun server =>
    (server.accept, server.test.alive, server.test.perf.cookie, server.test.mailbox.items)
  have before : (run (Server.step (.ofCookie "c")) (sample 1)
      (opening ++ [.accept silent])).map observe =
      some (.upgraded silent, true, "c", []) := rfl
  have after : (run (Server.step (.ofCookie "c")) (sample 1)
      ((opening ++ [.accept silent]) ++ [.look, .hello, .terminate])).map observe =
      some (.idle, true, "c", [.terminate]) := rfl
  obtain ⟨server, started, seen⟩ := Option.map_eq_some_iff.mp before
  obtain ⟨target, finished, result⟩ := Option.map_eq_some_iff.mp after
  rw [run_append, started] at finished
  simp only [observe, Prod.mk.injEq] at seen result
  refine ⟨server, target, ⟨_, started⟩, seen.1, seen.2.1, ?_, ?_, seen.2.2.2, result.2.2.2⟩
  · rw [seen.2.2.1]
    rfl
  · exact ⟨[.look, .hello, .terminate], by simp [ServerEvent.handles], finished, result.1⟩

end Server

end Iperf
