import Iperf.Server.Admission

/-!
# Surplus streams

The accept loop admits a connection by the test state alone, and the controller
leaves `CreateStreams` only when it receives the completing stream.  Connections
that are looked at in between are welcomed as well, registered after the load
has started, and wait for a signal that has passed.
-/

namespace Iperf

open Channel Transition

/-- The listener yields a connection that presents the cookie. -/
def ServerEvent.presents (json : Json) (cookie : String) : ServerEvent → Bool
  | .accept inbound => inbound.presents json cookie
  | _ => false

/-- The connection at hand presents the cookie and is not answered yet. -/
def AcceptPc.presenting (json : Json) (cookie : String) : AcceptPc → Nat
  | .upgraded inbound => (inbound.presents json cookie).toNat
  | .reading inbound _ => (inbound.presents json cookie).toNat
  | .welcoming _ => 1
  | _ => 0

namespace Server

variable {json : Json} {server next : Server}

/-- The accept loop looks at a connection that presents the cookie of a test
that asks for streams. -/
def Admits (json : Json) (server : Server) (event : ServerEvent) : Prop :=
  event = .look ∧ ∃ inbound cookie, server.accept = .upgraded inbound ∧
    server.test.state = .createStreams cookie ∧
    readCookie json inbound.peer = .done (.ok cookie)

/-- A connection is admitted only while streams are missing. -/
def Spare (json : Json) (server : Server) (event : ServerEvent) : Prop :=
  server.Admits json event → server.welcomed.length < server.test.perf.neededStreams

/-- The connection at hand is going to be welcomed. -/
def Welcoming (json : Json) (server : Server) : Prop :=
  (∃ inbound cookie, server.accept = .reading inbound cookie ∧
    readCookie json inbound.peer = .done (.ok cookie)) ∨
  ∃ inbound, server.accept = .welcoming inbound

/-- No more connections are welcomed than the test needs. -/
structure Within (json : Json) (server : Server) : Prop where
  bound : server.welcomed.length ≤ server.test.perf.neededStreams
  room : server.Welcoming json →
    server.welcomed.length < server.test.perf.neededStreams

theorem new_within (json : Json) (build : Build) (perf : Perf) :
    (new build perf).Within json where
  bound := Nat.zero_le _
  room := by
    rintro (⟨inbound, cookie, pc, -⟩ | ⟨inbound, pc⟩) <;> simp [new] at pc

/-- Whoever leaves answers and accept loop alone stays within the bound. -/
private theorem Within.congr (within : server.Within json)
    (perf : next.test.perf = server.test.perf) (accept : next.accept = server.accept)
    (replies : next.replies = server.replies) : next.Within json := by
  have welcomed : next.welcomed = server.welcomed := by rw [welcomed, replies, Server.welcomed]
  constructor
  · rw [perf, welcomed]
    exact within.bound
  · rw [Welcoming, perf, welcomed, accept]
    exact within.room

/-- The accept loop turns to something else than welcoming. -/
private theorem Within.leave (within : server.Within json)
    (perf : next.test.perf = server.test.perf)
    (welcomed : next.welcomed = server.welcomed)
    (reading : ∀ inbound cookie, next.accept ≠ .reading inbound cookie)
    (welcoming : ∀ inbound, next.accept ≠ .welcoming inbound) : next.Within json := by
  constructor
  · rw [perf, welcomed]
    exact within.bound
  · rintro (⟨inbound, cookie, pc, -⟩ | ⟨inbound, pc⟩)
    · exact absurd pc (reading inbound cookie)
    · exact absurd pc (welcoming inbound)

private theorem Within.acceptMove (within : server.Within json)
    (spare : server.Spare json event) (move : AcceptMove json server event next) :
    next.Within json := by
  have perf := move.outside.perf
  cases move with
  | lookCreateStreams inbound cookie pc unlocked state =>
      constructor
      · exact within.bound
      · rintro (⟨other, otherCookie, reading, read⟩ | ⟨other, welcoming⟩)
        · cases reading
          exact spare ⟨rfl, inbound, cookie, pc, state, read⟩
        · cases welcoming
  | hello inbound cookie pc read =>
      have room := within.room (.inl ⟨inbound, cookie, pc, read⟩)
      exact ⟨room.le, fun _ => room⟩
  | welcome inbound pc =>
      have room := within.room (.inr ⟨inbound, pc⟩)
      constructor
      · have added : Server.welcomed { server with
            accept := .handingOff inbound
            replies := server.replies ++ [(inbound.stream, .welcome)] } =
            server.welcomed ++ [inbound.stream] := List.filterMap_append
        rw [added, List.length_append]
        exact room
      · rintro (⟨other, cookie, reading, -⟩ | ⟨other, welcoming⟩)
        · cases reading
        · cases welcoming
  | refuse inbound holds delivered replies pc answer =>
      apply within.leave perf _ (by simp) (by simp)
      rcases answer with same | added
      · simp only [Server.welcomed, same]
      · simp [Server.welcomed, added, Reply.welcomedStream]
  | accept | lookOther | otherCookie | noHello | crash | unwelcome | handOff | terminate
  | stop => exact within.leave perf rfl (by simp) (by simp)

theorem Within.step (within : server.Within json) (spare : server.Spare json event)
    (step : server.step json event = some next) : next.Within json := by
  cases move_of_step step with
  | controller event test move => exact within.congr move.perf rfl rfl
  | task index event test move => exact within.congr move.frame.perf rfl rfl
  | ctrlC quiet => exact within.congr rfl rfl rfl
  | accept event next move => exact within.acceptMove spare move

/-! ## Streams that still wait for the load -/

/-- A worker that waits has not gone past any signal. -/
def Unpassed (server : Server) : Prop :=
  ∀ task ∈ server.test.tasks, task.worker.pc = .waiting → task.worker.receiver.next = 0

/-- A worker never goes back to waiting. -/
theorem waiting_of_evolves {publisher : Publisher} {task changed : Task}
    (evolves : task.Evolves publisher changed) (waiting : changed.worker.pc = .waiting) :
    changed.worker = task.worker := by
  cases evolves with
  | work event worker phase moved same =>
      cases moved with
      | start stage polled result | poll content stage polled result
      | work stage unpolled result =>
          rw [waiting] at result
          exact result.elim
      | refuse error signal stage other yields polled result
      | lose error signal stage failure yields polled result
      | fail error breaks stage unpolled result =>
          rw [waiting] at result
          cases result
      | succeed stats stage unpolled summary result =>
          rw [waiting] at result
          cases result
  | post result phase pc => rfl
  | finish result phase => rfl
  | panic phase listening => rfl

/-- Where streams are registered only while the test asks for them, no worker
waits for a signal that has passed. -/
private theorem Unpassed.step (unpassed : server.Unpassed)
    (early : next.test.tasks.length ≠ server.test.tasks.length →
      server.test.publisher.sent = [])
    (step : server.step json event = some next) : next.Unpassed := by
  cases move_of_step step with
  | controller event test move =>
      intro task taskMem waiting
      rcases move.tasks with same | ⟨stream, added⟩
      · exact unpassed task (same ▸ taskMem) waiting
      · have none := early (by simp [added])
        rw [added] at taskMem
        rcases List.mem_append.mp taskMem with old | new
        · exact unpassed task old waiting
        · rw [List.mem_singleton.mp new]
          exact congrArg List.length none
  | task index event test move =>
      apply move.forall_tasks unpassed
      intro task changed taskMem holds evolves waiting
      have same := waiting_of_evolves evolves waiting
      rw [same] at waiting ⊢
      exact holds waiting
  | ctrlC quiet => exact unpassed
  | accept event next move =>
      rw [Unpassed, move.outside.tasks]
      exact unpassed

/-- A server registers a stream on behalf of a message from the mailbox. -/
theorem selecting_of_registers {controller next : Controller}
    (phased : controller.Phased) (move : Controller.Move controller next)
    (registers : next.tasks.length ≠ controller.tasks.length) :
    controller.pc = .selecting ∧ next.tasks.length = controller.tasks.length + 1 := by
  have fits := phased.fits
  cases move with
  | close next closes => exact absurd (congrArg List.length closes.tasks) registers
  | finish next ends =>
      rcases ends.tasks with same | ⟨stream, added, ⟨total, greeting⟩ | ⟨selecting, -⟩⟩
      · exact absurd (congrArg List.length same) registers
      · rw [greeting] at fits
        exact fits.elim
      · rw [added, List.length_append]
        exact ⟨selecting, rfl⟩
  | recvCreate stream mailbox total pc role head needed =>
      exact ⟨pc, List.length_append⟩
  | greeted total stream pc =>
      rw [pc] at fits
      exact fits.elim
  | _ => exact absurd rfl registers

/-- With no more streams than the test needs, each one is registered while the
test asks for streams. -/
private theorem Tallied.early (tallied : server.Tallied) (admitted : next.Admitted)
    (within : next.Within json) (step : server.step json event = some next)
    (registers : next.test.tasks.length ≠ server.test.tasks.length) :
    server.test.publisher.sent = [] := by
  have phased := tallied.sound.phased.test
  cases move_of_step step with
  | controller event test move =>
      have bound := admitted.length_le.trans within.bound
      rw [move.perf] at bound
      obtain ⟨selecting, length⟩ := selecting_of_registers phased move registers
      change test.tasks.length ≤ _ at bound
      rw [length] at bound
      rcases tallied.counted.register_cases phased selecting with ⟨create, -⟩ | ⟨-, enough⟩
      · exact phased.unloaded (.inr ⟨_, create⟩)
      · exact absurd (enough.trans_le bound) (Nat.lt_irrefl _)
  | task index event test move => exact absurd move.frame.length registers
  | ctrlC quiet => exact absurd rfl registers
  | accept event next move =>
      exact absurd (congrArg List.length move.outside.tasks) registers

/-- Once looked at, a connection that presents the cookie is welcomed. -/
theorem surplus_welcomed {inbound : Inbound} {cookie : String}
    (pc : server.accept = .upgraded inbound)
    (state : server.test.state = .createStreams cookie)
    (read : readCookie json inbound.peer = .done (.ok cookie))
    (step : server.step json .look = some next)
    (many : server.test.perf.neededStreams ≤ server.welcomed.length) :
    ∃ later, run (Server.step json) next [.hello, .welcome true] = some later ∧
      later.test.perf.neededStreams < later.welcomed.length := by
  simp only [Server.step, acceptStep, pc, look, state] at step
  split at step
  · cases step
  · cases step
    refine ⟨_, by simp [run, Server.step, acceptStep, hello, read]; rfl, ?_⟩
    have added : (server.replies ++ [(inbound.stream, Reply.welcome)]).filterMap
        Reply.welcomedStream = server.welcomed ++ [inbound.stream] := List.filterMap_append
    simp only [Server.welcomed, added, List.length_append]
    exact Nat.lt_succ_of_le many

/-- What holds along the runs without surplus connections. -/
private structure Measured (json : Json) (server : Server) : Prop where
  tallied : server.Tallied
  admitted : server.Admitted
  within : server.Within json
  unpassed : server.Unpassed

private theorem Measured.few (admitted : next.Admitted) (within : next.Within json) :
    next.test.tasks.length < UInt16.size :=
  (admitted.length_le.trans within.bound).trans_lt (Perf.neededStreams_lt _)

private theorem Measured.step (measured : server.Measured json)
    (spare : server.Spare json event) (step : server.step json event = some next) :
    next.Measured json := by
  have admitted := measured.admitted.step measured.tallied.sound.phased step
  have within := measured.within.step spare step
  have early := measured.tallied.early admitted within step
  exact ⟨measured.tallied.step (Measured.few admitted within) step, admitted, within,
    measured.unpassed.step early step⟩

/-- As long as no connection is admitted beyond the needed number, the server
welcomes and registers no more streams than that, registers each one before it
sends `StartLoad`, and no worker waits for a `StartLoad` that has passed.  The
first connection admitted beyond that number is one too many. -/
theorem streams_within_needed (json : Json) (build : Build) (cookie : String)
    (params : Parameters) {events : List ServerEvent} {server : Server}
    (spare : Guarded (Server.step json) (Spare json)
      (new build (Perf.newWithStatsReceiver cookie .server params)) events)
    (finished : run (Server.step json)
      (new build (Perf.newWithStatsReceiver cookie .server params)) events = some server) :
    (server.welcomed.length ≤ server.test.perf.neededStreams ∧
      server.test.tasks.length ≤ server.test.perf.neededStreams ∧
      (∀ task ∈ server.test.tasks, task.worker.pc = .waiting →
        server.test.publisher.unread task.worker.receiver = server.test.publisher.sent) ∧
      ∀ event next, server.Spare json event → server.step json event = some next →
        next.test.tasks.length ≠ server.test.tasks.length →
        server.test.publisher.sent = []) ∧
    ∀ event next, server.step json event = some next → ¬ server.Spare json event →
      ∃ later, run (Server.step json) next [.hello, .welcome true] = some later ∧
        later.test.perf.neededStreams < later.welcomed.length := by
  have measured := run_invariant (Measured json)
    (fun _ _ _ measured spare step => measured.step spare step)
    ⟨⟨new_sound build rfl, Controller.new_counted build _, [], .start, rfl⟩,
      new_admitted build _, new_within json build _,
      fun task taskMem => absurd taskMem List.not_mem_nil⟩ spare finished
  constructor
  · constructor
    · exact measured.within.bound
    constructor
    · exact measured.admitted.length_le.trans measured.within.bound
    constructor
    · intro task taskMem waiting
      rw [Broadcast.unread, measured.unpassed task taskMem waiting]
      rfl
    · intro event next spare step registers
      have admitted := measured.admitted.step measured.tallied.sound.phased step
      exact measured.tallied.early admitted (measured.within.step spare step) step registers
  · intro event next step surplus
    rw [Spare, Classical.not_imp] at surplus
    obtain ⟨⟨rfl, inbound, own, pc, state, read⟩, many⟩ := surplus
    exact surplus_welcomed pc state read step (not_lt.mp many)

/-! ## Few enough connections -/

/-- Connections are welcomed only if they present the cookie. -/
theorem presenting_step (phased : server.Phased)
    (step : server.step json event = some next) :
    next.welcomed.length + next.accept.presenting json next.test.perf.cookie ≤
      server.welcomed.length + server.accept.presenting json server.test.perf.cookie +
        (event.presents json server.test.perf.cookie).toNat := by
  have keep : next.test.perf = server.test.perf → next.welcomed = server.welcomed →
      next.accept.presenting json server.test.perf.cookie ≤
        server.accept.presenting json server.test.perf.cookie →
      next.welcomed.length + next.accept.presenting json next.test.perf.cookie ≤
        server.welcomed.length + server.accept.presenting json server.test.perf.cookie +
          (event.presents json server.test.perf.cookie).toNat := by
    intro perf welcomed presenting
    rw [perf, welcomed]
    omega
  cases move_of_step step with
  | controller event test move => exact keep move.perf rfl le_rfl
  | task index event test move => exact keep move.frame.perf rfl le_rfl
  | ctrlC quiet => exact keep rfl rfl le_rfl
  | accept event next move =>
      have perf := move.outside.perf
      cases move with
      | accept inbound pc alive =>
          rw [pc]
          exact le_rfl
      | lookCreateStreams inbound cookie pc unlocked state =>
          apply keep perf rfl
          rw [pc]
          exact le_rfl
      | hello inbound cookie pc read =>
          apply keep perf rfl
          have own := phased.reading inbound cookie pc
          rw [own] at read
          rw [pc]
          simp [AcceptPc.presenting, Inbound.presents_iff.mpr read]
      | welcome inbound pc =>
          have added : (server.replies ++ [(inbound.stream, Reply.welcome)]).filterMap
              Reply.welcomedStream = server.welcomed ++ [inbound.stream] :=
            List.filterMap_append
          rw [pc]
          simp [Server.welcomed, added, AcceptPc.presenting]
      | refuse inbound holds delivered replies pc answer =>
          apply keep perf _ (Nat.zero_le _)
          rcases answer with same | added
          · simp only [Server.welcomed, same]
          · simp [Server.welcomed, added, Reply.welcomedStream]
      | lookOther | otherCookie | noHello | crash | unwelcome | handOff | terminate | stop =>
          exact keep perf rfl (Nat.zero_le _)

/-- Where at most as many connections present the cookie as the test needs
streams, none is admitted beyond that number. -/
theorem spare_of_presented {events : List ServerEvent} (phased : server.Phased)
    (few : server.welcomed.length + server.accept.presenting json server.test.perf.cookie +
      events.countP (ServerEvent.presents json server.test.perf.cookie) ≤
        server.test.perf.neededStreams) :
    Guarded (Server.step json) (Spare json) server events := by
  induction events generalizing server with
  | nil => trivial
  | cons event events ih =>
      constructor
      · rintro ⟨rfl, inbound, cookie, pc, state, read⟩
        rw [phased.test.cookie cookie state] at read
        rw [pc] at few
        simp only [AcceptPc.presenting, Inbound.presents_iff.mpr read, Bool.toNat_true] at few
        omega
      · intro middle step
        have perf : middle.test.perf = server.test.perf :=
          perf_of_step step
        apply ih (phased.step step)
        have presenting := presenting_step phased step
        rw [List.countP_cons] at few
        rw [perf] at presenting ⊢
        cases presents : event.presents json server.test.perf.cookie <;>
          simp only [presents, Bool.toNat_true, Bool.toNat_false, if_true, Bool.false_eq_true,
            if_false] at few presenting <;> omega

theorem streams_within_needed_one :
    ∃ server, Reachable (Server.step (.ofCookie "c")) (sample 1) server ∧
      server.test.publisher.sent = [.startLoad] ∧ server.test.tasks.length = 1 ∧
      server.welcomed.length ≤ server.test.perf.neededStreams ∧
      ∀ task ∈ server.test.tasks, task.worker.pc = .waiting →
        server.test.publisher.unread task.worker.receiver = [.startLoad] := by
  let observe : Server → List WorkerMessage × Nat := fun server =>
    (server.test.publisher.sent, server.test.tasks.length)
  have observed : (run (Server.step (.ofCookie "c")) (sample 1) startOne).map observe =
      some ([.startLoad], 1) := rfl
  obtain ⟨server, finished, result⟩ := Option.map_eq_some_iff.mp observed
  simp only [observe, Prod.mk.injEq] at result
  have spare : Guarded (Server.step (.ofCookie "c")) (Spare (.ofCookie "c")) (sample 1) startOne :=
    spare_of_presented (new_phased _ rfl) (by decide)
  have within := streams_within_needed (.ofCookie "c") ⟨true, true⟩ "c" (.fromOpts {}) spare
    finished
  exact ⟨server, ⟨startOne, finished⟩, result.1, result.2, within.1.1,
    fun task taskMem waiting => (within.1.2.2.1 task taskMem waiting).trans result.1⟩

private def surplus : List ServerEvent :=
  opening ++ admission (.presenting (.ofCookie "c") "c" 0) ++
    admission (.presenting (.ofCookie "c") "c" 1) ++ [.controller .recv] ++ announcement ++
    turn ++ [.controller .recv]

/-- Two connections are welcomed for a test of one stream.  The second is
registered after `StartLoad` and waits for it with nothing left to read. -/
theorem surplus_stream_admitted :
    ∃ server, Reachable (Server.step (.ofCookie "c")) (sample 1) server ∧
      server.test.perf.totalStreams = 1 ∧ server.welcomed = [⟨0⟩, ⟨1⟩] ∧
      server.test.publisher.sent = [.startLoad] ∧
      ∃ task ∈ server.test.tasks, task.stream = ⟨1⟩ ∧ task.worker.pc = .waiting ∧
        server.test.publisher.unread task.worker.receiver = [] := by
  let waiting : Server → List (TcpStream × WorkerPc × List WorkerMessage) := fun server =>
    server.test.tasks.map fun task =>
      (task.stream, task.worker.pc, server.test.publisher.unread task.worker.receiver)
  let observe : Server → Nat × List TcpStream × List WorkerMessage ×
      List (TcpStream × WorkerPc × List WorkerMessage) := fun server =>
    (server.test.perf.totalStreams, server.welcomed, server.test.publisher.sent, waiting server)
  have observed : (run (Server.step (.ofCookie "c")) (sample 1) surplus).map observe =
      some (1, [⟨0⟩, ⟨1⟩], [.startLoad],
        [(⟨0⟩, .waiting, [.startLoad]), (⟨1⟩, .waiting, [])]) := rfl
  obtain ⟨server, finished, result⟩ := Option.map_eq_some_iff.mp observed
  simp only [observe, waiting, Prod.mk.injEq] at result
  obtain ⟨total, welcomed, sent, tasks⟩ := result
  have last : (⟨⟨1⟩, .waiting, []⟩ : TcpStream × WorkerPc × List WorkerMessage) ∈
      [(⟨0⟩, .waiting, [.startLoad]), (⟨1⟩, .waiting, [])] := by simp
  rw [← tasks, List.mem_map] at last
  obtain ⟨task, taskMem, result⟩ := last
  simp only [Prod.mk.injEq] at result
  exact ⟨server, ⟨surplus, finished⟩, total, welcomed, sent, task, taskMem, result⟩

end Server

end Iperf
