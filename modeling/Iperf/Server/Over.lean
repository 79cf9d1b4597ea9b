import Iperf.Server.LifeCycle

/-!
# Why a server stops asking for streams

A server that has announced `CreateStreams` admits streams until enough are
registered or somebody asks for the end of the test.  The one exception is the
moment before the announced state is stored.
-/

namespace Iperf

open Channel LifeCycle Transition

namespace Controller

variable {controller next : Controller}

/-- Somebody has asked for the end of the test. -/
def Asked (controller : Controller) : Prop :=
  .terminate ∈ controller.received ∨ controller.shutdown ≠ .quiet

/-- Enough streams are registered, or the test is to end. -/
def Over (controller : Controller) : Prop :=
  controller.perf.neededStreams ≤ controller.tasks.length ∨ controller.Asked

theorem Asked.move (asked : controller.Asked) (move : Move controller next) : next.Asked := by
  rcases asked with received | signalled
  · left
    cases move.mailbox with
    | same mailbox same lost => exact same ▸ received
    | take message pc head added lost => exact added ▸ List.mem_append_left _ received
    | post pc signalled taken posts same => exact same ▸ received
    | drop ended mailbox taken lost =>
        rcases taken with same | ⟨message, rest, -, added⟩
        · exact same ▸ received
        · exact added ▸ List.mem_append_left _ received
  · right
    rcases move.takesShutdown with same | taken
    · exact same ▸ signalled
    · simp [taken]

theorem Over.move (done : controller.Over) (move : Move controller next) : next.Over := by
  rcases done with enough | asked
  · left
    rw [move.perf]
    rcases move.tasks with same | ⟨stream, added⟩
    · exact same ▸ enough
    · rw [added, List.length_append]
      exact enough.trans (Nat.le_add_right _ _)
  · exact .inr (asked.move move)

theorem Over.congr (done : controller.Over) (perf : next.perf = controller.perf)
    (tasks : next.tasks.length = controller.tasks.length)
    (received : next.received = controller.received)
    (shutdown : controller.shutdown ≠ .quiet → next.shutdown ≠ .quiet) : next.Over := by
  unfold Over Asked at done ⊢
  rw [perf, tasks, received]
  exact done.imp_right (·.imp_right shutdown)

/-- On its way to the state `Terminate`. -/
def Terminating (controller : Controller) : Prop :=
  controller.state = .terminate ∨ controller.pc = .announcing .terminate ∨
    controller.pc = .storing .terminate

/-- A test has left `CreateStreams` for a reason. -/
structure Excused (controller : Controller) : Prop where
  exchanging : controller.state = .exchangeResults → controller.Over
  terminating : controller.Terminating → controller.Asked

theorem new_excused (build : Build) (perf : Perf) : (new build perf).Excused where
  exchanging := fun state => by simp [new] at state
  terminating := fun terminating => by simp [Terminating, new] at terminating

private theorem terminating_of_move (phased : controller.Phased) (move : Move controller next)
    (terminating : next.Terminating) : controller.Terminating ∨ next.Asked := by
  have role := phased.role
  rcases terminating with state | pc
  · rcases move.state with same | ⟨target, pc, -, stored, -⟩
    · exact .inl (.inl (same ▸ state))
    · rw [stored] at state
      exact .inl (.inr (.inr (state ▸ pc)))
  · cases move with
    | recvTerminate mailbox here head =>
        exact .inr (.inl (List.mem_append_right _ (List.mem_singleton_self _)))
    | shutdown here signalled => exact .inr (.inr (by simp))
    | announce target here =>
        simp only [reduceCtorEq, Pc.storing.injEq, false_or] at pc
        exact .inl (.inr (.inl (pc ▸ here)))
    | close next closes =>
        have after := closes.after
        rcases pc with pc | pc <;> simp [pc, Pc.Closing] at after
    | finish next ends =>
        obtain ⟨ending, ended⟩ := ends.pc
        simp [ended] at pc
    | serverSets target here client => rw [role] at client; cases client
    | recvCreate stream mailbox total here server head needed =>
        simp only at pc
        split at pc <;> simp at pc
    | recvStray id mailbox here head missing =>
        simp only [afterTerminatedPc] at pc
        split at pc <;> simp at pc
    | join id index results task here found ended =>
        simp only [afterTerminatedPc] at pc
        split at pc <;> simp at pc
    | greeted total stream here =>
        simp only at pc
        split at pc <;> simp at pc
    | _ => simp [stopWorkers] at pc

theorem Excused.move (excused : controller.Excused) (phased : controller.Phased)
    (counted : controller.Counted) (move : Move controller next) : next.Excused where
  exchanging := by
    intro state
    rcases move.state with same | ⟨target, pc, -, stored, -⟩
    · exact (excused.exchanging (same ▸ state)).move move
    · rw [stored] at state
      subst state
      have follows := counted.follows phased pc
      have running : controller.state = .running := by
        generalize controller.state = source at follows
        cases follows
        rfl
      exact Over.move (.inl (counted.enough running).2) move
  terminating := by
    intro terminating
    rcases terminating_of_move phased move terminating with earlier | asked
    · exact (excused.terminating earlier).move move
    · exact asked

theorem Excused.congr (excused : controller.Excused) (state : next.state = controller.state)
    (pc : next.pc = controller.pc) (perf : next.perf = controller.perf)
    (tasks : next.tasks.length = controller.tasks.length)
    (received : next.received = controller.received)
    (shutdown : controller.shutdown ≠ .quiet → next.shutdown ≠ .quiet) : next.Excused := by
  constructor
  · rw [state]
    exact fun exchanging =>
      (excused.exchanging exchanging).congr perf tasks received shutdown
  · unfold Terminating Asked
    rw [state, pc, received]
    exact fun terminating => (excused.terminating terminating).imp_right shutdown

end Controller

namespace Server

variable {json : Json} {server next : Server} {event : ServerEvent}

theorem AcceptMove.shutdown (move : AcceptMove json server event next) :
    next.test.shutdown = server.test.shutdown := by
  cases move with
  | accept | lookCreateStreams | lookOther | hello | otherCookie | noHello | crash | welcome
  | unwelcome | handOff | refuse | terminate | stop => rfl

theorem over_of_step (step : server.step json event = some next) (done : server.test.Over) :
    next.test.Over := by
  cases move_of_step step with
  | controller event test move => exact done.move move
  | task index event test move =>
      have frame := move.frame
      exact done.congr frame.perf frame.length frame.received
        (fun signalled => frame.shutdown ▸ signalled)
  | ctrlC quiet => exact done.congr rfl rfl rfl (fun _ => by simp)
  | accept event next move =>
      have outside := move.outside
      exact done.congr outside.perf (congrArg List.length outside.tasks) outside.received
        (fun signalled => move.shutdown ▸ signalled)

theorem excused_of_reachable {build : Build} {perf : Perf} (role : perf.role = .server)
    (reachable : Reachable (Server.step json) (new build perf) server)
    (few : server.test.tasks.length < UInt16.size) : server.test.Excused := by
  have both : server.Tallied ∧ server.test.Excused := by
    apply reachable.invariant_while (fun server => server.test.tasks.length < UInt16.size)
      (fun server => server.Tallied ∧ server.test.Excused)
      (fun _ _ _ step few => (tasks_length_le step).trans_lt few) _
      ⟨⟨new_sound build role, Controller.new_counted build perf, [], .start, rfl⟩,
        Controller.new_excused build perf⟩ few
    rintro source event target ⟨tallied, excused⟩ - few step
    constructor
    · exact tallied.step few step
    · cases move_of_step step with
      | controller event test move =>
          exact excused.move tallied.sound.phased.test tallied.counted move
      | task index event test move =>
          have frame := move.frame
          exact excused.congr frame.state frame.pc frame.perf frame.length frame.received
            (fun signalled => frame.shutdown ▸ signalled)
      | ctrlC quiet => exact excused.congr rfl rfl rfl rfl rfl (fun _ => by simp)
      | accept event next move =>
          have outside := move.outside
          exact excused.congr outside.state outside.pc outside.perf
            (congrArg List.length outside.tasks) outside.received
            (fun signalled => move.shutdown ▸ signalled)
  exact both.2

/-- A server that has asked for streams and is not done with them either is in
`CreateStreams`, or is about to store that state. -/
theorem creating_of_announced {build : Build} {perf : Perf} (role : perf.role = .server)
    (reachable : Reachable (Server.step json) (new build perf) server)
    (asking : ∃ cookie, .createStreams cookie ∈ server.test.announced)
    (unfinished : ¬ server.test.Over) :
    server.test.state = .createStreams server.test.perf.cookie ∨
      (server.test.state = .start ∧
        server.test.pc = .storing (.createStreams server.test.perf.cookie)) := by
  rw [Controller.Over, not_or, not_le] at unfinished
  have few := unfinished.1.trans server.test.perf.neededStreams_lt
  have tallied := tallied_of_reachable role reachable few
  have excused := excused_of_reachable role reachable few
  cases state : server.test.state with
  | start =>
      right
      constructor
      · exact rfl
      · obtain ⟨log, walk, logged⟩ := tallied.walked
        rw [state] at walk
        rw [walk.of_start, List.nil_append] at logged
        obtain ⟨cookie, announced⟩ := asking
        rw [logged] at announced
        cases pc : server.test.pc with
        | storing target =>
            rw [pc, Pc.unstored, List.mem_singleton] at announced
            have fits := tallied.sound.phased.test.fits
            rw [pc, state, ← announced] at fits
            rw [← announced, (fits.early.2 cookie rfl).2]
        | _ => simp [pc, Pc.unstored] at announced
  | createStreams cookie =>
      left
      rw [tallied.sound.phased.test.cookie cookie state]
  | running => exact absurd (tallied.counted.enough state).2 (not_le.mpr unfinished.1)
  | exchangeResults =>
      rcases excused.exchanging state with enough | asked
      · exact absurd enough (not_le.mpr unfinished.1)
      · exact absurd asked unfinished.2
  | terminate => exact absurd (excused.terminating (.inl state)) unfinished.2

end Server

end Iperf
