import Iperf.LifeCycle
import Iperf.Server.Step

/-!
# Phases of the server

The invariant that ties together the test state, its lock, the control points
of the controller and of the accept loop, what has been broadcast and what the
workers have seen.  It holds in every reachable state, whatever the peers do.
-/

namespace Iperf

open Channel LifeCycle

/-- A state the server may announce next.  Nothing in the code keeps it from
announcing `Running` again; that this does not happen is shown later. -/
def State.Succeeds (cookie : String) (state target : State) : Prop :=
  Follows cookie state target ∨ (state = .running ∧ target = .running)

/-- Only the start is succeeded by a state that asks for streams, and nothing is
succeeded by the start. -/
theorem State.Succeeds.early {cookie : String} {state target : State}
    (succeeds : state.Succeeds cookie target) :
    target ≠ .start ∧ ∀ other, target = .createStreams other →
      state = .start ∧ other = cookie := by
  rcases succeeds with follows | ⟨-, running⟩
  · exact ⟨follows.target_ne_start, fun other create =>
      (create ▸ follows : Follows cookie state (.createStreams other)).of_createStreams⟩
  · simp [running]

/-- What the control point of a server says about the test state. -/
def Pc.Fits (cookie : String) (state : State) : Pc → Prop
  | .matched read => read = state
  | .polling => state = .createStreams cookie ∨ state = .running
  | .selecting => state = .createStreams cookie ∨ state = .running
  | .joining _ _ => state = .running
  | .announcing target => state.Succeeds cookie target
  | .storing target => state.Succeeds cookie target
  | .connecting _ => False
  | .greeting _ _ => False
  | .collecting _ => state = .exchangeResults ∨ state = .terminate
  | .writingResults _ => state = .exchangeResults ∨ state = .terminate
  | .readingResults => state = .exchangeResults ∨ state = .terminate
  | .forwarding _ _ => state = .exchangeResults ∨ state = .terminate
  | _ => True

/-- While it closes down, a server is in one of its last two states. -/
theorem Pc.fits_closing_iff {cookie : String} {state : State} {pc : Pc}
    (closing : pc.Closing) (running : ∀ ending, pc ≠ .ended ending) :
    pc.Fits cookie state ↔ state = .exchangeResults ∨ state = .terminate := by
  cases pc with
  | collecting exchange | writingResults remote | readingResults
  | forwarding localStats remoteStats => exact Iff.rfl
  | ended ending => exact absurd rfl (running ending)
  | _ => exact closing.elim

namespace Controller

/-- The test asks for streams or has not started: no load is running. -/
def beforeLoad (controller : Controller) : Prop :=
  controller.state = .start ∨ ∃ cookie, controller.state = .createStreams cookie

structure Phased (controller : Controller) : Prop where
  role : controller.perf.role = .server
  cookie : ∀ other, controller.state = .createStreams other → other = controller.perf.cookie
  fits : controller.pc.Fits controller.perf.cookie controller.state
  unloaded : controller.beforeLoad → controller.publisher.sent = []
  sound : ∀ task ∈ controller.tasks, task.Sound
  started : ∀ task ∈ controller.tasks, task.worker.Started →
    .startLoad ∈ controller.publisher.sent
  terminated : ∀ id, .streamTerminated id ∈ controller.accepted →
    .startLoad ∈ controller.publisher.sent

theorem new_phased (build : Build) {perf : Perf} (role : perf.role = .server) :
    (new build perf).Phased where
  role := role
  cookie := fun other state => by simp [new] at state
  fits := trivial
  unloaded := fun _ => rfl
  sound := fun task taskMem => absurd taskMem List.not_mem_nil
  started := fun task taskMem => absurd taskMem List.not_mem_nil
  terminated := fun id idMem => by simp [accepted, new] at idMem

variable {controller next : Controller}

/-- Before the load runs, no stream has terminated. -/
theorem Phased.not_terminated (phased : controller.Phased) (before : controller.beforeLoad)
    (id : Nat) : .streamTerminated id ∉ controller.accepted := by
  intro idMem
  have sent := phased.terminated id idMem
  rw [phased.unloaded before] at sent
  exact List.not_mem_nil sent

/-- A controller in its `select!` that finds a terminated stream is running. -/
theorem Phased.running_of_terminated (phased : controller.Phased)
    (pc : controller.pc = .selecting) {id : Nat}
    (idMem : .streamTerminated id ∈ controller.accepted) :
    controller.state = .running := by
  have fits := phased.fits
  rw [pc] at fits
  rcases fits with create | running
  · exact absurd idMem (phased.not_terminated (.inr ⟨_, create⟩) id)
  · exact running

theorem mem_accepted_of_head {message : ControllerMessage} {rest : List ControllerMessage}
    (head : controller.mailbox.items = message :: rest) : message ∈ controller.accepted := by
  rw [accepted, head]
  exact List.mem_append_right _ List.mem_cons_self

/-- The handling of a terminated stream ends with a fitting control point. -/
private theorem fits_afterTerminatedPc {cookie : String} {state : State} {role : Role}
    {workers : AList fun _ : Nat => Nat} (running : state = .running) :
    (afterTerminatedPc role workers).Fits cookie state := by
  unfold afterTerminatedPc
  split
  · exact .inl (running ▸ Follows.exchange)
  · trivial

/-- Asking for the end is possible wherever the controller waits. -/
private theorem fits_terminate (phased : controller.Phased)
    (pc : controller.pc = .selecting) :
    (setStatePc controller.perf.role .terminate).Fits controller.perf.cookie
      controller.state := by
  have fits := phased.fits
  rw [pc] at fits
  rw [phased.role]
  rcases fits with create | running
  · exact .inl (create ▸ Follows.abortCreate)
  · exact .inl (running ▸ Follows.abortRun)

private theorem Phased.fits_move (phased : controller.Phased)
    (move : Move controller next) : next.pc.Fits next.perf.cookie next.state := by
  have role := phased.role
  have fits := phased.fits
  cases move with
  | close next closes =>
      rw [Pc.fits_closing_iff closes.before (alive_iff.mp closes.alive)] at fits
      rw [Pc.fits_closing_iff closes.after (alive_iff.mp closes.stays), closes.state]
      exact fits
  | finish next ends =>
      obtain ⟨ending, pc⟩ := ends.pc
      rw [pc]
      trivial
  | start pc unlocked => trivial
  | turn pc unlocked => rfl
  | createStreams pc server =>
      rw [pc] at fits
      exact .inl (fits ▸ Follows.create)
  | pass state pc loaded initial exchange terminate opened =>
      rw [pc] at fits
      change state = controller.state at fits
      subst fits
      cases current : controller.state with
      | start =>
          have client := initial current
          rw [role] at client
          cases client
      | createStreams cookie => exact .inl (phased.cookie cookie current ▸ rfl)
      | running => exact .inr rfl
      | exchangeResults => exact absurd current exchange
      | terminate => exact absurd current terminate
  | startLoad pc transition listener =>
      rw [pc] at fits
      exact .inr fits.symm
  | stop exchange pc =>
      rw [pc] at fits
      change _ = controller.state at fits
      cases exchange with
      | true => exact .inl fits.symm
      | false => exact .inr fits.symm
  | connect cookie total pc client needed more => rw [role] at client; cases client
  | poll pc => rwa [pc] at fits
  | pollSignal mailbox lost pc signalled posts => rwa [pc] at fits
  | recvCreate stream mailbox total pc server head needed =>
      rw [pc] at fits
      simp only
      split
      · rcases fits with create | running
        · exact .inl (create ▸ Follows.run)
        · exact .inr ⟨running, rfl⟩
      · trivial
  | recvTerminated id index mailbox pc head found =>
      exact phased.running_of_terminated pc (mem_accepted_of_head head)
  | recvStray id mailbox pc head missing =>
      exact fits_afterTerminatedPc
        (phased.running_of_terminated pc (mem_accepted_of_head head))
  | recvTerminate mailbox pc head => exact @fits_terminate controller phased pc
  | shutdown pc signalled => exact @fits_terminate controller phased pc
  | serverSets target pc client => rw [role] at client; cases client
  | serverSays pc client => rw [role] at client; cases client
  | greet total stream pc => rw [pc] at fits; exact fits.elim
  | greeted total stream pc => rw [pc] at fits; exact fits.elim
  | announce target pc => rwa [pc] at fits
  | store target pc unlocked => trivial
  | join id index results task pc found ended =>
      rw [pc] at fits
      exact fits_afterTerminatedPc fits

/-- A new state is never one from before the load, except that the test asks
for streams first. -/
theorem Phased.beforeLoad_move (phased : controller.Phased)
    (move : Move controller next) (before : next.beforeLoad) : controller.beforeLoad := by
  rcases move.state with same | ⟨target, pc, -, state, -⟩
  · unfold beforeLoad at before
    rwa [same] at before
  · have fits := phased.fits
    rw [pc] at fits
    unfold beforeLoad at before
    rw [state] at before
    rcases before with start | ⟨cookie, create⟩
    · exact absurd start fits.early.1
    · exact .inl (fits.early.2 cookie create).1

/-- A state that asks for streams names the test's own cookie. -/
private theorem Phased.cookie_move (phased : controller.Phased)
    (move : Move controller next) (other : String)
    (create : next.state = .createStreams other) : other = next.perf.cookie := by
  rw [move.perf]
  rcases move.state with same | ⟨target, pc, -, state, -⟩
  · exact phased.cookie other (same ▸ create)
  · have fits := phased.fits
    rw [pc] at fits
    exact (fits.early.2 other (state ▸ create)).2

private theorem Phased.unloaded_move (phased : controller.Phased)
    (move : Move controller next) (before : next.beforeLoad) : next.publisher.sent = [] := by
  have earlier := phased.beforeLoad_move move before
  have unloaded := phased.unloaded earlier
  have fits := phased.fits
  rcases move.publisher with same | ⟨pc, -⟩ | ⟨exchange, pc, -⟩
  · rw [same, unloaded]
  · rw [pc] at fits
    change State.running = controller.state at fits
    simp [beforeLoad, ← fits] at earlier
  · rw [pc] at fits
    change _ = controller.state at fits
    cases exchange <;> simp [beforeLoad, ← fits] at earlier

theorem Phased.move (phased : controller.Phased) (move : Move controller next) :
    next.Phased where
  role := move.perf ▸ phased.role
  cookie := phased.cookie_move move
  fits := phased.fits_move move
  unloaded := phased.unloaded_move move
  sound := by
    rcases move.tasks with same | ⟨stream, added⟩
    · rw [same]
      exact phased.sound
    · rw [added]
      intro task taskMem
      rcases List.mem_append.mp taskMem with old | new
      · exact phased.sound task old
      · rw [List.mem_singleton.mp new]
        exact newTask_sound controller stream
  started := by
    intro task taskMem started
    apply move.sent_prefix.subset
    rcases move.tasks with same | ⟨stream, added⟩
    · exact phased.started task (same ▸ taskMem) started
    · rw [added] at taskMem
      rcases List.mem_append.mp taskMem with old | new
      · exact phased.started task old started
      · rw [List.mem_singleton.mp new] at started
        exact absurd started (newTask_not_started controller stream)
  terminated := by
    intro id idMem
    rcases move.mem_accepted idMem with old | new
    · exact move.sent_prefix.subset (phased.terminated id old)
    · cases new

theorem Phased.taskMove {index : Nat} {event : TaskEvent} (phased : controller.Phased)
    (move : TaskMove controller index event next) : next.Phased := by
  have frame := move.frame
  have started : ∀ task ∈ next.tasks, task.worker.Started →
      .startLoad ∈ controller.publisher.sent :=
    move.forall_tasks phased.started fun task changed _ holds evolves started =>
      (evolves.started started).elim holds id
  constructor
  · exact frame.perf ▸ phased.role
  · rw [frame.perf, frame.state]
    exact phased.cookie
  · rw [frame.pc, frame.perf, frame.state]
    exact phased.fits
  · unfold beforeLoad
    rw [frame.state, frame.publisher]
    exact phased.unloaded
  · exact move.forall_tasks phased.sound fun task changed _ sound evolves =>
      evolves.sound sound
  · rw [frame.publisher]
    exact started
  · rw [frame.publisher]
    intro id idMem
    rcases move.accepted with same | ⟨task, result, -, found, phase, pc, -, added⟩
    · exact phased.terminated id (same ▸ idMem)
    · rw [added] at idMem
      rcases List.mem_append.mp idMem with old | new
      · exact phased.terminated id old
      · have taskMem := List.mem_of_getElem? found
        exact phased.started task taskMem
          ((phased.sound task taskMem).consistent.succeeded result pc)

/-- Other tasks send no `StreamTerminated` on a worker's behalf. -/
theorem Phased.outside (phased : controller.Phased) (outside : Outside controller next)
    (posts : ∀ id, .streamTerminated id ∈ next.accepted →
      .streamTerminated id ∈ controller.accepted) : next.Phased := by
  constructor
  · exact outside.perf ▸ phased.role
  · rw [outside.perf, outside.state]
    exact phased.cookie
  · rw [outside.pc, outside.perf, outside.state]
    exact phased.fits
  · unfold beforeLoad
    rw [outside.state, outside.publisher]
    exact phased.unloaded
  · rw [outside.tasks]
    exact phased.sound
  · rw [outside.tasks, outside.publisher]
    exact phased.started
  · rw [outside.publisher]
    exact fun id idMem => phased.terminated id (posts id idMem)

end Controller

namespace Server

/-- The invariant of the whole server: the controller's, and the accept loop
holds the lock only while the test asks for streams. -/
structure Phased (server : Server) : Prop where
  test : server.test.Phased
  locked : server.test.locked = server.accept.holdsLock
  held : server.accept.holdsLock = true →
    server.test.state = .createStreams server.test.perf.cookie
  reading : ∀ inbound cookie, server.accept = .reading inbound cookie →
    cookie = server.test.perf.cookie

theorem new_phased (build : Build) {perf : Perf} (role : perf.role = .server) :
    (new build perf).Phased where
  test := Controller.new_phased build role
  locked := rfl
  held := fun holds => by simp [new, AcceptPc.holdsLock] at holds
  reading := fun inbound cookie pc => by simp [new] at pc

variable {json : Json} {server next : Server} {event : ServerEvent}

theorem AcceptMove.mem_accepted (move : AcceptMove json server event next) {id : Nat}
    (idMem : .streamTerminated id ∈ next.test.accepted) :
    .streamTerminated id ∈ server.test.accepted := by
  rcases move.accepted with same | added | ⟨inbound, -, added⟩
  · rwa [same] at idMem
  · rw [added] at idMem
    simpa using idMem
  · rw [added] at idMem
    simpa using idMem

private theorem Phased.controllerMove (phased : server.Phased) {test : Controller}
    (move : Controller.Move server.test test) : Phased { server with test } where
  test := phased.test.move move
  locked := move.locked.trans phased.locked
  held := by
    intro holds
    have held := phased.held holds
    rcases move.state with same | ⟨target, -, unlocked, -⟩
    · rw [move.perf, ← held]
      exact same
    · have locked := phased.locked
      rw [unlocked] at locked
      exact absurd holds (by simp [← locked])
  reading := by
    intro inbound cookie pc
    rw [move.perf]
    exact phased.reading inbound cookie pc

private theorem Phased.taskMove (phased : server.Phased) {test : Controller} {index : Nat}
    {event : TaskEvent} (move : Controller.TaskMove server.test index event test) :
    Phased { server with test } where
  test := phased.test.taskMove move
  locked := move.frame.locked.trans phased.locked
  held := by
    rw [move.frame.perf, move.frame.state]
    exact phased.held
  reading := by
    rw [move.frame.perf]
    exact phased.reading

private theorem Phased.acceptMove (phased : server.Phased)
    (move : AcceptMove json server event next) : next.Phased := by
  have test := phased.test.outside move.outside fun id idMem => move.mem_accepted idMem
  have locked := phased.locked
  have held := phased.held
  cases move with
  | accept inbound pc alive =>
      rw [pc] at locked
      exact ⟨test, locked, by simp [AcceptPc.holdsLock], by simp⟩
  | lookCreateStreams inbound cookie pc unlocked state =>
      have own := phased.test.cookie cookie state
      exact ⟨test, rfl, fun _ => own ▸ state, fun _ _ reading => by
        cases reading
        exact own⟩
  | lookOther inbound pc unlocked state =>
      exact ⟨test, unlocked, by simp [AcceptPc.holdsLock], by simp⟩
  | hello inbound cookie pc read =>
      rw [pc] at locked held
      exact ⟨test, locked, held, by simp⟩
  | otherCookie inbound cookie clientCookie pc read differs =>
      rw [pc] at locked held
      exact ⟨test, locked, held, by simp⟩
  | noHello inbound cookie error pc read =>
      exact ⟨test, rfl, by simp [AcceptPc.holdsLock], by simp⟩
  | crash inbound cookie pc read =>
      exact ⟨test, rfl, by simp [AcceptPc.holdsLock], by simp⟩
  | welcome inbound pc =>
      rw [pc] at locked held
      exact ⟨test, locked, held, by simp⟩
  | unwelcome inbound pc => exact ⟨test, rfl, by simp [AcceptPc.holdsLock], by simp⟩
  | handOff inbound mailbox lost pc posts =>
      exact ⟨test, rfl, by simp [AcceptPc.holdsLock], by simp⟩
  | refuse inbound holds delivered replies pc answer =>
      rw [pc] at locked
      constructor
      · exact test
      · change (server.test.locked && !holds) = false
        rw [locked]
        cases holds <;> rfl
      · simp [AcceptPc.holdsLock]
      · simp
  | terminate error mailbox lost pc posts =>
      rw [pc] at locked
      exact ⟨test, locked, by simp [AcceptPc.holdsLock], by simp⟩
  | stop pc signalled =>
      rw [pc] at locked
      exact ⟨test, locked, by simp [AcceptPc.holdsLock], by simp⟩

theorem Phased.step (phased : server.Phased)
    (step : server.step json event = some next) : next.Phased := by
  cases move_of_step step with
  | controller event test move => exact phased.controllerMove move
  | task index event test move => exact phased.taskMove move
  | ctrlC quiet =>
      exact ⟨phased.test.outside (Controller.outside_of_fields _ _ _ _ _) (fun _ idMem => idMem),
        phased.locked, phased.held, phased.reading⟩
  | accept event next move => exact phased.acceptMove move

end Server

end Iperf
