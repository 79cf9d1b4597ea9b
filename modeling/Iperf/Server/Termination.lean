import Iperf.Server.Order

/-!
# No finished stream is forgotten

A running server leaves `Running` only through the `StreamTerminated` messages
of its streams.  A worker that returns `Ok` posts one; a worker that returns an
error ends its task before the post, and its handle stays behind.
-/

namespace Iperf

open Channel Transition

/-- The controller has taken a `StreamTerminated` and is not done with it. -/
def Pc.HandlesTermination : Pc → Prop
  | .joining _ _ => True
  | .announcing target => target = .exchangeResults
  | .storing target => target = .exchangeResults
  | _ => False

/-- The controller has registered the last stream and is about to run. -/
def Pc.CompletesStreams : Pc → Prop
  | .announcing target => target = .running
  | .storing target => target = .running
  | _ => False

namespace Controller

/-- The handles of a running test are gone only while the last one is being
dealt with. -/
structure Occupied (controller : Controller) : Prop where
  running : controller.alive = true → controller.state = .running →
    controller.workers.entries ≠ [] ∨ controller.pc.HandlesTermination
  completing : controller.pc.CompletesStreams → controller.workers.entries ≠ []

theorem new_occupied (build : Build) (perf : Perf) : (new build perf).Occupied where
  running := fun _ state => by simp [new] at state
  completing := fun completes => completes.elim

variable {controller next : Controller}

private theorem afterTerminatedPc_occupied (workers : AList fun _ : Nat => Nat) :
    (workers.entries ≠ [] ∨ (afterTerminatedPc .server workers).HandlesTermination) ∧
      ¬ (afterTerminatedPc .server workers).CompletesStreams := by
  unfold afterTerminatedPc
  split
  · exact ⟨.inr rfl, by simp [Pc.CompletesStreams]⟩
  · rename_i more
    exact ⟨.inl fun empty => more ⟨empty, rfl⟩, id⟩

/-- Leaving the workers alone keeps a server occupied if the control point does
not leave the handling of a termination, nor enter the completion. -/
private theorem Occupied.keep (occupied : controller.Occupied)
    (running : controller.alive = true) (state : next.state = controller.state)
    (workers : next.workers = controller.workers)
    (handles : ¬ controller.pc.HandlesTermination)
    (completes : ¬ next.pc.CompletesStreams) : next.Occupied where
  running := by
    intro _ current
    rw [workers]
    have := occupied.running running (state ▸ current)
    exact .inl (this.resolve_right handles)
  completing := fun completing => absurd completing completes

theorem insert_entries_ne_nil (workers : AList fun _ : Nat => Nat) (id index : Nat) :
    (workers.insert id index).entries ≠ [] := by
  rw [AList.entries_insert]
  exact List.cons_ne_nil _ _

theorem Occupied.move (occupied : controller.Occupied) (phased : controller.Phased)
    (move : Move controller next) : next.Occupied := by
  have role := phased.role
  have fits := phased.fits
  cases move with
  | close next closes =>
      rw [Pc.fits_closing_iff closes.before (alive_iff.mp closes.alive)] at fits
      constructor
      · intro _ current
        rw [closes.state] at current
        rcases fits with exchange | terminate <;> simp_all
      · intro completing
        have after := closes.after
        cases pc : next.pc <;> simp_all [Pc.CompletesStreams, Pc.Closing]
  | finish next ends =>
      obtain ⟨ending, pc⟩ := ends.pc
      constructor
      · intro stays
        simp [alive_of_pc_ended pc] at stays
      · intro completing
        rw [pc] at completing
        exact completing.elim
  | recvCreate stream mailbox total pc server head needed =>
      exact ⟨fun _ _ => .inl (insert_entries_ne_nil _ _ _),
        fun _ => insert_entries_ne_nil _ _ _⟩
  | recvTerminated id index mailbox pc head found =>
      exact ⟨fun _ _ => .inr trivial, fun completing => completing.elim⟩
  | recvStray id mailbox pc head missing =>
      rw [role]
      obtain ⟨kept, incomplete⟩ := afterTerminatedPc_occupied controller.workers
      exact ⟨fun _ _ => kept, fun completing => absurd completing incomplete⟩
  | join id index results task pc found ended =>
      rw [role]
      obtain ⟨kept, incomplete⟩ := afterTerminatedPc_occupied controller.workers
      exact ⟨fun _ _ => kept, fun completing => absurd completing incomplete⟩
  | announce target pc =>
      constructor
      · intro _ current
        have before := occupied.running (by simp [alive, pc]) current
        rwa [pc] at before
      · intro completing
        exact occupied.completing (pc ▸ completing)
  | store target pc unlocked =>
      refine ⟨fun _ current => .inl ?_, fun completing => completing.elim⟩
      exact occupied.completing (by rw [pc]; exact current)
  | createStreams pc server =>
      rw [pc] at fits
      constructor
      · intro _ current
        exact absurd (fits.trans current) (by simp)
      · exact fun completing => by cases completing
  | greet total stream pc => rw [pc] at fits; exact fits.elim
  | greeted total stream pc => rw [pc] at fits; exact fits.elim
  | serverSets target pc client => rw [role] at client; cases client
  | recvTerminate mailbox pc head =>
      refine occupied.keep (by simp [alive, pc]) rfl rfl (by simp [pc, Pc.HandlesTermination]) ?_
      rw [role]
      simp [setStatePc, Pc.CompletesStreams]
  | shutdown pc signalled =>
      refine occupied.keep (by simp [alive, pc]) rfl rfl (by simp [pc, Pc.HandlesTermination]) ?_
      rw [role]
      simp [setStatePc, Pc.CompletesStreams]
  | start pc _ | turn pc _ | pass _ pc _ _ _ _ | startLoad pc _ _ | stop _ pc
  | connect _ _ pc _ _ _ | poll pc | pollSignal _ _ pc _ _ | serverSays pc _ =>
      exact occupied.keep (by simp [alive, pc]) rfl rfl (by simp [pc, Pc.HandlesTermination])
        id

/-- Whoever leaves control point, state and handles alone keeps the server
occupied. -/
theorem Occupied.congr (occupied : controller.Occupied) (pc : next.pc = controller.pc)
    (state : next.state = controller.state) (workers : next.workers = controller.workers) :
    next.Occupied := by
  constructor
  · unfold alive
    rw [pc, state, workers]
    exact occupied.running
  · rw [pc, workers]
    exact occupied.completing

end Controller

namespace Server

variable {json : Json} {server next : Server} {event : ServerEvent}

theorem occupied_of_reachable {build : Build} {perf : Perf} (role : perf.role = .server)
    (reachable : Reachable (Server.step json) (new build perf) server) :
    server.test.Occupied := by
  have both : server.Phased ∧ server.test.Occupied := by
    refine reachable.invariant (fun server => server.Phased ∧ server.test.Occupied)
      ?_ ⟨new_phased build role, Controller.new_occupied build perf⟩
    intro source event target holds step
    constructor
    · exact holds.1.step step
    · cases move_of_step step with
      | controller event test move => exact holds.2.move holds.1.test move
      | task index event test move =>
          exact holds.2.congr move.frame.pc move.frame.state move.frame.workers
      | ctrlC quiet => exact holds.2.congr rfl rfl rfl
      | accept event target move =>
          exact holds.2.congr move.outside.pc move.outside.state move.outside.workers
  exact both.2

end Server

/-! ## When finished streams are remembered -/

namespace Controller

/-- Every handle whose task has ended has its `StreamTerminated` waiting. -/
def RemembersFinished (controller : Controller) : Prop :=
  ∀ id index task, controller.workers.lookup id = some index →
    controller.tasks[index]? = some task → task.isFinished = true →
    .streamTerminated id ∈ controller.mailbox.items

/-- The test runs, all its tasks have ended, and nothing is left that would
move it on. -/
structure Forgotten (controller : Controller) : Prop where
  running : controller.state = .running
  empty : controller.mailbox.items = []
  finished : ∀ task ∈ controller.tasks, task.isFinished = true
  idle : ¬ controller.pc.HandlesTermination

/-- No handle belongs to a task that ended without a result. -/
def Unfailed (controller : Controller) : Prop :=
  ∀ id index task, controller.workers.lookup id = some index →
    controller.tasks[index]? = some task → task.hasFailed = false

variable {controller : Controller}

/-- A stream whose task has posted is remembered. -/
theorem Registered.remembers (registered : controller.Registered)
    (kept : controller.lost = []) (unfailed : controller.Unfailed) :
    controller.RemembersFinished := by
  intro id index task handle found finished
  have succeeded := unfailed id index task handle found
  have posted : task.hasPosted = true :=
    (Task.isFinished_cases finished).resolve_right (by simp [succeeded])
  have awaited := registered.awaited id index task handle found posted
  rw [kept] at awaited
  exact awaited.resolve_right List.not_mem_nil

/-- The `StreamTerminated` of an id comes from its one task. -/
theorem Registered.author_eq (registered : controller.Registered)
    (counted : controller.tasks.length ≤ UInt16.size) {id index : Nat} {task : Task}
    (handle : controller.workers.lookup id = some index)
    (found : controller.tasks[index]? = some task)
    (idMem : .streamTerminated id ∈ controller.accepted) : task.hasPosted = true := by
  obtain ⟨other, otherMem, otherId, posted⟩ := registered.author id idMem
  obtain ⟨position, foundOther⟩ := List.getElem?_of_mem otherMem
  have bound := (List.getElem?_eq_some_iff.mp foundOther).1
  have number := (registered.identity position other foundOther).1
  obtain ⟨indexBound, indexNumber⟩ := registered.position id index handle
  rw [otherId, Nat.mod_eq_of_lt (bound.trans_le counted)] at number
  rw [Nat.mod_eq_of_lt (indexBound.trans_le counted)] at indexNumber
  have same : position = index := number.symm.trans indexNumber.symm
  rw [same, found, Option.some.injEq] at foundOther
  exact foundOther ▸ posted

/-- With its `StreamTerminated` waiting, a task has not failed. -/
theorem Registered.unfailed (registered : controller.Registered)
    (counted : controller.tasks.length ≤ UInt16.size)
    (remembers : controller.RemembersFinished) : controller.Unfailed := by
  intro id index task handle found
  cases failed : task.hasFailed with
  | false => rfl
  | true =>
      have waiting := remembers id index task handle found (Task.isFinished_of_failed failed)
      have posted := registered.author_eq counted handle found
        (List.mem_append_right _ waiting)
      rw [Task.not_failed_of_posted posted] at failed
      cases failed

/-- A remembering server is never stuck: some handle is kept, so some task of a
kept handle has ended. -/
theorem Occupied.not_forgotten (occupied : controller.Occupied)
    (registered : controller.Registered) (running : controller.alive = true)
    (remembers : controller.RemembersFinished) : ¬ controller.Forgotten := by
  intro forgotten
  have handles := (occupied.running running forgotten.running).resolve_right forgotten.idle
  obtain ⟨entry, entryMem⟩ := List.exists_mem_of_ne_nil _ handles
  have handle : controller.workers.lookup entry.1 = some entry.2 :=
    AList.mem_lookup_iff.mpr entryMem
  have bound := (registered.position entry.1 entry.2 handle).1
  have found := List.getElem?_eq_getElem bound
  have finished := forgotten.finished _ (List.getElem_mem bound)
  have waiting := remembers entry.1 entry.2 _ handle found finished
  rw [forgotten.empty] at waiting
  exact List.not_mem_nil waiting

end Controller

namespace Server

/-- A running server remembers its finished streams exactly when no task of a
kept handle has failed, and then it is never stuck. -/
theorem finished_streams_remembered (json : Json) (build : Build) (cookie : String)
    (params : Parameters) {server : Server}
    (reachable : Reachable (Server.step json)
      (new build (Perf.newWithStatsReceiver cookie .server params)) server)
    (running : server.test.alive = true) (kept : server.test.lost = []) :
    (server.test.Unfailed → server.test.RemembersFinished ∧ ¬ server.test.Forgotten) ∧
      (server.test.tasks.length ≤ UInt16.size →
        server.test.RemembersFinished → server.test.Unfailed) := by
  have sound := sound_of_reachable rfl reachable
  have occupied := occupied_of_reachable rfl reachable
  constructor
  · intro unfailed
    have remembers := sound.registered.remembers kept unfailed
    exact ⟨remembers, occupied.not_forgotten sound.registered running remembers⟩
  · intro counted remembers
    exact sound.registered.unfailed counted remembers

theorem finished_streams_remembered_one :
    ∃ server, Reachable (Server.step (.ofCookie "c")) (sample 1) server ∧
      server.test.state = .running ∧ server.test.tasks.map Task.isFinished = [true] ∧
      server.test.RemembersFinished ∧ ¬ server.test.Forgotten := by
  let observe : Server → Bool × State × List ControllerMessage × List Bool × List Bool :=
    fun server => (server.test.alive, server.test.state, server.test.lost,
      server.test.tasks.map Task.isFinished, server.test.tasks.map Task.hasFailed)
  -- The worker runs for eleven seconds and its task ends.
  let events : List ServerEvent := startOne ++
    [.task 0 (.work (.signal 0 0)), .task 0 (.work (.head 11000000000)),
      .task 0 (.work (.leave 11000000000 none)), .task 0 (.work (.sent true)),
      .task 0 (.work (.summarize 11000000000 none)), .task 0 .post, .task 0 .finish]
  have observed : (run (Server.step (.ofCookie "c")) (sample 1) events).map observe =
      some (true, .running, [], [true], [false]) := rfl
  obtain ⟨server, finished, result⟩ := Option.map_eq_some_iff.mp observed
  simp only [observe, Prod.mk.injEq] at result
  obtain ⟨running, state, lost, ended, failed⟩ := result
  have unfailed : server.test.Unfailed := by
    intro id index task handle found
    have taskMem := List.mem_map_of_mem (f := Task.hasFailed) (List.mem_of_getElem? found)
    rw [failed] at taskMem
    exact List.mem_singleton.mp taskMem
  have reachable : Reachable _ _ server := ⟨events, finished⟩
  exact ⟨server, reachable, state, ended,
    (finished_streams_remembered _ _ _ _ reachable running lost).1 unfailed⟩

/-- A data socket fails under load: the task ends without a message, and the
controller waits for ever with an empty mailbox. -/
theorem failed_stream_forgotten :
    ∃ server, Reachable (Server.step (.ofCookie "c")) (sample 1) server ∧
      server.test.alive = true ∧ server.test.lost = [] ∧ server.test.pc = .selecting ∧
      ¬ server.test.RemembersFinished ∧ server.test.Forgotten := by
  let observe : Server → Bool × State × Pc × List ControllerMessage × List ControllerMessage ×
      Option Nat × List Bool := fun server =>
    (server.test.alive, server.test.state, server.test.pc, server.test.lost,
      server.test.mailbox.items, server.test.workers.lookup 0,
      server.test.tasks.map Task.isFinished)
  let events : List ServerEvent := startOne ++
    [.task 0 (.work (.signal 0 0)), .task 0 (.work (.head 0)),
      .task 0 (.work (.transfer .failed 0 none))]
  have observed : (run (Server.step (.ofCookie "c")) (sample 1) events).map observe =
      some (true, .running, .selecting, [], [], some 0, [true]) := rfl
  obtain ⟨server, finished, result⟩ := Option.map_eq_some_iff.mp observed
  simp only [observe, Prod.mk.injEq, List.map_eq_singleton_iff] at result
  obtain ⟨running, state, pc, lost, empty, handle, task, tasks, ended⟩ := result
  refine ⟨server, ⟨events, finished⟩, running, lost, pc, ?_, ?_⟩
  · intro remembers
    have waiting := remembers 0 0 task handle (by simp [tasks]) ended
    rw [empty] at waiting
    exact List.not_mem_nil waiting
  · exact ⟨state, empty, by simp [tasks, ended], by simp [pc, Pc.HandlesTermination]⟩

end Server

end Iperf
