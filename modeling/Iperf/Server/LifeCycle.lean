import Iperf.Server.Termination

/-!
# The server walks the life-cycle in order

Nothing in the code compares the number of registered streams with the number
of streams the test needs, except at the moment one is registered.  The
invariant below says what the comparison is worth: while no `StreamTerminated`
has been received the handles count the registered streams, and afterwards
every registered stream is kept, has ended, or is being waited for.
-/

namespace Iperf

open Channel LifeCycle Transition

/-- Neither the completion of the streams nor the end of one is in progress. -/
def Pc.Quiet (pc : Pc) : Prop :=
  ¬ pc.CompletesStreams ∧ ¬ pc.HandlesTermination

namespace Controller

variable {controller next : Controller}

structure Counted (controller : Controller) : Prop where
  complete : ¬ controller.pc.Closing →
    (∀ id, .streamTerminated id ∉ controller.received) →
    controller.workers.entries.length = controller.tasks.length
  accounted : ¬ controller.pc.Closing → ∀ index task,
    controller.tasks[index]? = some task →
    controller.workers.lookup index = some index ∨ task.isFinished = true ∨
      controller.pc = .joining index index
  short : ¬ controller.pc.Closing → controller.beforeLoad →
    controller.pc.CompletesStreams ∨
    controller.tasks.length < controller.perf.neededStreams ∨
    controller.perf.neededStreams = 0
  enough : controller.state = .running → 0 < controller.perf.neededStreams ∧
    controller.perf.neededStreams ≤ controller.tasks.length
  completing : controller.pc.CompletesStreams →
    0 < controller.perf.neededStreams ∧
    controller.tasks.length = controller.perf.neededStreams ∧
    controller.workers.entries.length = controller.perf.neededStreams ∧
    controller.state = .createStreams controller.perf.cookie
  terminated : controller.pc.HandlesTermination →
    ∃ id, .streamTerminated id ∈ controller.received
  exchanging : controller.pc = .announcing .exchangeResults ∨
      controller.pc = .storing .exchangeResults →
    controller.workers.entries = []

theorem new_counted (build : Build) (perf : Perf) : (new build perf).Counted where
  complete := fun _ _ => rfl
  accounted := fun _ index task found => by simp [new] at found
  short := fun _ _ => .inr (Nat.eq_zero_or_pos perf.neededStreams).symm
  enough := fun running => by simp [new] at running
  completing := fun completes => completes.elim
  terminated := fun handles => handles.elim
  exchanging := fun exchanging => by simp [new] at exchanging

/-- Unless it is being joined, a task that has not finished has a handle. -/
private theorem Counted.held_or_finished (counted : controller.Counted)
    (open_ : ¬ controller.pc.Closing) (elsewhere : ∀ index, controller.pc ≠ .joining index index)
    {index : Nat} {task : Task} (found : controller.tasks[index]? = some task) :
    controller.workers.lookup index = some index ∨ task.isFinished = true := by
  rcases counted.accounted open_ index task found with kept | finished | joining
  · exact .inl kept
  · exact .inr finished
  · exact absurd joining (elsewhere index)

/-- With few streams a handle is kept under the position of its task. -/
theorem Registered.index_eq (registered : controller.Registered)
    (few : controller.tasks.length ≤ UInt16.size) {id index : Nat}
    (handle : controller.workers.lookup id = some index) : index = id := by
  obtain ⟨bound, number⟩ := registered.position id index handle
  rwa [Nat.mod_eq_of_lt (bound.trans_le few)] at number

/-- With few streams the counter is the number of registered streams. -/
theorem Registered.counter_eq (registered : controller.Registered)
    (running : controller.alive = true) (few : controller.tasks.length < UInt16.size) :
    controller.streamIndex.toNat = controller.tasks.length := by
  rw [registered.counter running, Nat.mod_eq_of_lt few]

/-- With few streams a new handle replaces none. -/
theorem Registered.length_insert (registered : controller.Registered)
    (running : controller.alive = true) (few : controller.tasks.length < UInt16.size)
    (index : Nat) :
    (controller.workers.insert controller.streamIndex.toNat index).entries.length =
      controller.workers.entries.length + 1 := by
  have fresh : controller.streamIndex.toNat ∉ controller.workers := by
    rw [← AList.lookup_eq_none, registered.counter_eq running few]
    cases handle : controller.workers.lookup controller.tasks.length with
    | none => rfl
    | some position =>
        have bound := (registered.position _ _ handle).1
        rw [registered.index_eq few.le handle] at bound
        exact absurd bound (Nat.lt_irrefl _)
  rw [AList.entries_insert_of_notMem fresh, List.length_cons]

/-- A move between quiet control points that leaves the streams alone. -/
private theorem Counted.keep (counted : controller.Counted)
    (open_ : ¬ controller.pc.Closing)
    (perf : next.perf = controller.perf) (state : next.state = controller.state)
    (tasks : next.tasks = controller.tasks) (workers : next.workers = controller.workers)
    (received : ∀ id, .streamTerminated id ∈ controller.received →
      .streamTerminated id ∈ next.received)
    (before : controller.pc.Quiet) (after : next.pc.Quiet) : next.Counted where
  complete := by
    intro _ none
    rw [workers, tasks]
    exact counted.complete open_ fun id idMem => none id (received id idMem)
  accounted := by
    intro _ index task found
    rw [workers]
    have held := counted.held_or_finished open_
      (fun index joining => before.2 (by rw [joining]; trivial)) (tasks ▸ found)
    exact held.imp_right .inl
  short := by
    intro _ early
    unfold beforeLoad at early
    rw [state] at early
    rw [perf, tasks]
    exact .inr ((counted.short open_ early).resolve_left before.1)
  enough := by
    rw [state, perf, tasks]
    exact counted.enough
  completing := fun completes => absurd completes after.1
  terminated := fun handles => absurd handles after.2
  exchanging := fun exchanging => by
    refine absurd ?_ after.2
    rcases exchanging with pc | pc <;> rw [pc] <;> rfl

/-- After the main loop nothing is counted any more. -/
private theorem Counted.closed (counted : controller.Counted)
    (perf : next.perf = controller.perf) (state : next.state = controller.state)
    (tasks : controller.tasks.length ≤ next.tasks.length)
    (closed : next.pc.Closing) : next.Counted where
  complete := fun open_ => absurd closed open_
  accounted := fun open_ => absurd closed open_
  short := fun open_ => absurd closed open_
  enough := by
    intro running
    rw [perf]
    have enough := counted.enough (state ▸ running)
    exact ⟨enough.1, enough.2.trans tasks⟩
  completing := fun completes => by
    cases pc : next.pc <;> simp_all [Pc.CompletesStreams, Pc.Closing]
  terminated := fun handles => by
    cases pc : next.pc <;> simp_all [Pc.HandlesTermination, Pc.Closing]
  exchanging := fun exchanging => by
    rcases exchanging with pc | pc <;> rw [pc] at closed <;> exact closed.elim

/-- The number of streams decides what follows a registration. -/
theorem Counted.register_cases (counted : controller.Counted)
    (phased : controller.Phased) (pc : controller.pc = .selecting) :
    (controller.state = .createStreams controller.perf.cookie ∧
        (controller.tasks.length < controller.perf.neededStreams ∨
          controller.perf.neededStreams = 0)) ∨
      (controller.state = .running ∧
        controller.perf.neededStreams < controller.tasks.length + 1) := by
  have fits := phased.fits
  rw [pc] at fits
  rcases fits with create | running
  · have short := counted.short (by rw [pc]; exact id) (.inr ⟨_, create⟩)
    rw [pc] at short
    exact .inl ⟨create, short.resolve_left id⟩
  · exact .inr ⟨running, Nat.lt_succ_of_le (counted.enough running).2⟩

/-- One more stream is registered, on behalf of the message at the head of the
mailbox. -/
private theorem Counted.recvCreate (counted : controller.Counted)
    (phased : controller.Phased) (registered : controller.Registered)
    (ordered : controller.Ordered)
    (few : controller.tasks.length + 1 < UInt16.size) (stream : TcpStream)
    (mailbox : Queue ControllerMessage internalPortBuffer) (total : UInt16)
    (pc : controller.pc = .selecting)
    (head : controller.mailbox.items = .createStream stream :: mailbox.items)
    (needed : controller.totalNeededStreams = some total) :
    Counted { controller.register stream with
      mailbox
      received := controller.received ++ [.createStream stream]
      pc :=
        if (controller.register stream).workers.entries.length = total.toNat then
          .announcing .running
        else .loopHead } := by
  have running : controller.alive = true := by simp [alive, pc]
  have open_ : ¬ controller.pc.Closing := by rw [pc]; exact id
  have fewBefore : controller.tasks.length < UInt16.size := Nat.lt_of_succ_lt few
  -- The message is a `CreateStream`, so nothing has terminated yet.
  have none : ∀ id, .streamTerminated id ∉ controller.received := fun id idMem =>
    ordered.not_mem_mailbox idMem stream (by rw [head]; exact List.mem_cons_self)
  have length : (controller.register stream).workers.entries.length =
      controller.tasks.length + 1 := by
    rw [← counted.complete open_ none]
    exact registered.length_insert running fewBefore _
  have accounted : ∀ index task,
      (controller.tasks ++ [controller.newTask stream])[index]? = some task →
      (controller.register stream).workers.lookup index = some index ∨
        task.isFinished = true := by
    intro index task found
    have counter := registered.counter_eq running fewBefore
    simp only [register, counter]
    rcases lookup_append found with old | ⟨position, -⟩
    · have bound := (List.getElem?_eq_some_iff.mp old).1
      rw [AList.lookup_insert_ne bound.ne]
      exact counted.held_or_finished open_ (by simp [pc]) old
    · rw [position, AList.lookup_insert]
      exact .inl rfl
  have cases := counted.register_cases phased pc
  rw [length, totalNeededStreams_eq needed]
  split
  · rename_i reached
    have create := cases.resolve_right fun surplus => by omega
    exact {
      complete := fun _ _ => by simpa [register] using length
      accounted := fun _ index task found =>
        (accounted index task found).imp_right .inl
      short := fun _ _ => .inl rfl
      enough := fun current => by
        have other := create.1.symm.trans current
        cases other
      completing := fun _ => by
        exact ⟨reached ▸ Nat.succ_pos _, List.length_append.trans reached,
          length.trans reached, create.1⟩
      terminated := fun handles => by cases handles
      exchanging := fun exchanging => by simp at exchanging }
  · rename_i missed
    exact {
      complete := fun _ _ => by simpa [register] using length
      accounted := fun _ index task found =>
        (accounted index task found).imp_right .inl
      short := fun _ early => by
        right
        rcases cases with ⟨-, short⟩ | ⟨current, -⟩
        · simp only [register, List.length_append, List.length_singleton]
          omega
        · change controller.beforeLoad at early
          simp [beforeLoad, current] at early
      enough := fun current => by
        have enough := counted.enough current
        simp only [register, List.length_append]
        exact ⟨enough.1, Nat.le_add_right_of_le enough.2⟩
      completing := fun completes => completes.elim
      terminated := fun handles => handles.elim
      exchanging := fun exchanging => by simp at exchanging }

private theorem afterTerminatedPc_cases (role : Role) (workers : AList fun _ : Nat => Nat) :
    (afterTerminatedPc role workers = .announcing .exchangeResults ∧
        workers.entries = []) ∨
      afterTerminatedPc role workers = .loopHead := by
  unfold afterTerminatedPc
  split
  · rename_i last
    exact .inl ⟨rfl, last.1⟩
  · exact .inr rfl

/-- A termination has been dealt with: no handle is being waited for. -/
private theorem Counted.afterTerminated (counted : controller.Counted)
    (running : controller.state = .running) (perf : next.perf = controller.perf)
    (state : next.state = controller.state) (tasks : next.tasks = controller.tasks)
    (workers : next.workers = controller.workers)
    (pc : next.pc = afterTerminatedPc controller.perf.role controller.workers)
    (terminated : ∃ id, .streamTerminated id ∈ next.received)
    (accounted : ∀ index task, controller.tasks[index]? = some task →
      controller.workers.lookup index = some index ∨ task.isFinished = true) :
    next.Counted := by
  have late : ¬ next.beforeLoad := by simp [beforeLoad, state, running]
  have enough : next.state = .running → 0 < next.perf.neededStreams ∧
      next.perf.neededStreams ≤ next.tasks.length := by
    rw [perf, state, tasks]
    exact counted.enough
  have kept : ∀ index task, next.tasks[index]? = some task →
      next.workers.lookup index = some index ∨ task.isFinished = true ∨
        next.pc = .joining index index := by
    rw [tasks, workers]
    exact fun index task found => (accounted index task found).imp_right .inl
  obtain ⟨id, idMem⟩ := terminated
  have incomplete : ¬ next.pc.CompletesStreams := by
    rw [pc]
    rcases afterTerminatedPc_cases controller.perf.role controller.workers with
      ⟨announcing, -⟩ | loopHead
    · rw [announcing]
      simp [Pc.CompletesStreams]
    · rw [loopHead]
      exact fun completes => completes
  constructor
  · exact fun _ none => absurd idMem (none id)
  · exact fun _ => kept
  · exact fun _ early => absurd early late
  · exact enough
  · exact fun completes => absurd completes incomplete
  · exact fun _ => ⟨id, idMem⟩
  · intro exchanging
    rw [workers]
    rcases afterTerminatedPc_cases controller.perf.role controller.workers with
      ⟨-, empty⟩ | loopHead
    · exact empty
    · rw [pc, loopHead] at exchanging
      simp at exchanging

private theorem Counted.announced (counted : controller.Counted) {target : State}
    (pc : controller.pc = .announcing target) :
    Counted { controller with
      announced := controller.announced ++ [target]
      pc := .storing target } where
  complete := fun _ => counted.complete (by rw [pc]; exact id)
  accounted := by
    intro _ index task found
    have held := counted.held_or_finished (by rw [pc]; exact id) (by simp [pc]) found
    exact held.imp_right .inl
  short := fun _ early => by
    have short := counted.short (by rw [pc]; exact id) early
    rwa [pc] at short
  enough := counted.enough
  completing := fun completes => counted.completing (by rw [pc]; exact completes)
  terminated := fun handles => counted.terminated (by rw [pc]; exact handles)
  exchanging := fun exchanging => counted.exchanging (.inl (by
    simp only [reduceCtorEq, Pc.storing.injEq, false_or] at exchanging
    rw [pc, exchanging]))

private theorem Counted.stored (counted : controller.Counted) {target : State}
    (pc : controller.pc = .storing target)
    (succeeds : controller.state.Succeeds controller.perf.cookie target) :
    Counted { controller with state := target, pc := .loopHead } where
  complete := fun _ => counted.complete (by rw [pc]; exact id)
  accounted := by
    intro _ index task found
    have held := counted.held_or_finished (by rw [pc]; exact id) (by simp [pc]) found
    exact held.imp_right .inl
  short := fun _ early => by
    have start : controller.state = .start := by
      rcases early with start | ⟨cookie, create⟩
      · exact absurd start succeeds.early.1
      · exact (succeeds.early.2 cookie create).1
    have short := counted.short (by rw [pc]; exact id) (.inl start)
    refine .inr (short.resolve_left fun completes => ?_)
    have create := (counted.completing completes).2.2.2
    rw [start] at create
    cases create
  enough := fun running => by
    change target = _ at running
    obtain ⟨positive, length, -, -⟩ := counted.completing (by rw [pc]; exact running)
    exact ⟨positive, length.ge⟩
  completing := fun completes => completes.elim
  terminated := fun handles => handles.elim
  exchanging := fun exchanging => by simp at exchanging

private theorem quiet_terminate (role : Role) : (setStatePc role .terminate).Quiet := by
  cases role <;> exact ⟨by simp [setStatePc, Pc.CompletesStreams],
    by simp [setStatePc, Pc.HandlesTermination]⟩

theorem Counted.move (counted : controller.Counted) (phased : controller.Phased)
    (registered : controller.Registered) (ordered : controller.Ordered)
    (few : next.tasks.length < UInt16.size) (move : Move controller next) :
    next.Counted := by
  have role := phased.role
  have phase := phased.fits
  cases move with
  | close next closes =>
      exact counted.closed closes.perf closes.state (closes.tasks ▸ le_rfl) closes.after
  | finish next ends =>
      obtain ⟨ending, pc⟩ := ends.pc
      refine counted.closed ends.perf ends.state ?_ (by rw [pc]; trivial)
      rcases ends.tasks with same | ⟨stream, added, -⟩
      · exact same ▸ le_rfl
      · rw [added, List.length_append]
        exact Nat.le_add_right _ _
  | stop exchange pc => exact counted.closed rfl rfl le_rfl trivial
  | recvCreate stream mailbox total pc server head needed =>
      refine counted.recvCreate phased registered ordered ?_ stream mailbox total pc head
        needed
      simpa [register] using few
  | recvTerminated id index mailbox pc head found =>
      have running := phased.running_of_terminated pc (mem_accepted_of_head head)
      have own : index = id := registered.index_eq few.le found
      exact {
        complete := fun _ none => absurd (by simp) (none id)
        accounted := fun _ position task foundTask => by
          rcases counted.held_or_finished (by rw [pc]; exact fun closing => closing)
            (by simp [pc]) foundTask with kept | finished
          · by_cases same : position = id
            · exact .inr (.inr (by rw [own, same]))
            · exact .inl ((AList.lookup_erase_ne same).trans kept)
          · exact .inr (.inl finished)
        short := fun _ early => by
          change controller.beforeLoad at early
          simp [beforeLoad, running] at early
        enough := counted.enough
        completing := fun completes => completes.elim
        terminated := fun _ => ⟨id, by simp⟩
        exchanging := fun exchanging => by simp at exchanging }
  | recvStray id mailbox pc head missing =>
      refine counted.afterTerminated
        (phased.running_of_terminated pc (mem_accepted_of_head head)) rfl rfl rfl rfl rfl
        ⟨id, by simp⟩ ?_
      intro index task found
      have looping : ¬controller.pc.Closing := by
        rw [pc]
        exact not_false
      exact counted.held_or_finished looping (by simp [pc]) found
  | join id index results task pc found ended =>
      rw [pc] at phase
      refine counted.afterTerminated phase rfl rfl rfl rfl rfl
        (counted.terminated (by rw [pc]; trivial)) ?_
      intro position other foundOther
      rcases counted.accounted (by rw [pc]; exact fun closing => closing) position other
        foundOther with kept | finished | joining
      · exact .inl kept
      · exact .inr finished
      · rw [pc, Pc.joining.injEq] at joining
        rw [← joining.2, found, Option.some.injEq] at foundOther
        exact .inr (foundOther ▸ ended)
  | announce target pc => exact counted.announced pc
  | store target pc unlocked => rw [pc] at phase; exact counted.stored pc phase
  | greet total stream pc => rw [pc] at phase; exact phase.elim
  | greeted total stream pc => rw [pc] at phase; exact phase.elim
  | serverSets target pc client => rw [role] at client; cases client
  | recvTerminate mailbox pc head =>
      exact counted.keep (by rw [pc]; exact id) rfl rfl rfl rfl
        (fun _ => List.mem_append_left _) (by rw [pc]; exact ⟨id, id⟩) (quiet_terminate _)
  | shutdown pc signalled =>
      exact counted.keep (by rw [pc]; exact id) rfl rfl rfl rfl (fun _ idMem => idMem)
        (by rw [pc]; exact ⟨id, id⟩) (quiet_terminate _)
  | createStreams pc server =>
      exact counted.keep (by rw [pc]; exact id) rfl rfl rfl rfl (fun _ idMem => idMem)
        (by rw [pc]; exact ⟨id, id⟩)
        ⟨by simp [Pc.CompletesStreams], by simp [Pc.HandlesTermination]⟩
  | start pc _ | turn pc _ | pass _ pc _ _ _ _ | startLoad pc _ _ | connect _ _ pc _ _ _
  | poll pc | pollSignal _ _ pc _ _ | serverSays pc _ =>
      exact counted.keep (by rw [pc]; exact id) rfl rfl rfl rfl (fun _ idMem => idMem)
        (by rw [pc]; exact ⟨id, id⟩) ⟨id, id⟩

theorem Counted.taskMove {index : Nat} {event : TaskEvent} (counted : controller.Counted)
    (move : TaskMove controller index event next) : next.Counted := by
  have frame := move.frame
  constructor
  · rw [frame.pc, frame.received, frame.workers, frame.length]
    exact counted.complete
  · rw [frame.pc, frame.workers]
    intro open_ position task found
    obtain ⟨before, foundBefore, same | evolves⟩ := move.lookup found
    · exact same ▸ counted.accounted open_ position before foundBefore
    · apply (counted.accounted open_ position before foundBefore).imp_right
      rintro (finished | joining)
      · rw [evolves.not_finished] at finished
        cases finished
      · exact .inr joining
  · unfold beforeLoad
    rw [frame.pc, frame.state, frame.length, frame.perf]
    exact counted.short
  · rw [frame.state, frame.perf, frame.length]
    exact counted.enough
  · rw [frame.pc, frame.perf, frame.length, frame.workers, frame.state]
    exact counted.completing
  · rw [frame.pc, frame.received]
    exact counted.terminated
  · rw [frame.pc, frame.workers]
    exact counted.exchanging

theorem Counted.outside (counted : controller.Counted) (outside : Outside controller next) :
    next.Counted := by
  constructor
  · rw [outside.pc, outside.received, outside.workers, outside.tasks]
    exact counted.complete
  · rw [outside.pc, outside.workers, outside.tasks]
    exact counted.accounted
  · unfold beforeLoad
    rw [outside.pc, outside.state, outside.tasks, outside.perf]
    exact counted.short
  · rw [outside.state, outside.perf, outside.tasks]
    exact counted.enough
  · rw [outside.pc, outside.perf, outside.tasks, outside.workers, outside.state]
    exact counted.completing
  · rw [outside.pc, outside.received]
    exact counted.terminated
  · rw [outside.pc, outside.workers]
    exact counted.exchanging

end Controller

/-! ## The walk -/

/-- The announcement that is written but not stored yet. -/
def Pc.unstored : Pc → List State
  | .storing target => [target]
  | _ => []

theorem Pc.unstored_of_settled {pc : Pc} (settled : ∀ target, pc ≠ .storing target) :
    pc.unstored = [] := by
  cases pc with
  | storing target => exact absurd rfl (settled target)
  | _ => rfl

namespace Controller

variable {controller next : Controller}

/-- The test state is reached by the announcements that have been stored. -/
def Walked (controller : Controller) : Prop :=
  ∃ log, Walk controller.perf.cookie controller.state log ∧
    controller.announced = log ++ controller.pc.unstored

/-- Announcing nothing and storing nothing keeps the walk. -/
private theorem Walked.keep (walked : controller.Walked)
    (perf : next.perf = controller.perf) (state : next.state = controller.state)
    (announced : next.announced = controller.announced)
    (unstored : next.pc.unstored = controller.pc.unstored) : next.Walked := by
  obtain ⟨log, walk, logged⟩ := walked
  rw [Walked, perf, state, announced, unstored]
  exact ⟨log, walk, logged⟩

/-- What is about to be stored follows the current state. -/
theorem Counted.follows (counted : controller.Counted) (phased : controller.Phased)
    {target : State} (pc : controller.pc = .storing target) :
    Follows controller.perf.cookie controller.state target := by
  have succeeds := phased.fits
  rw [pc] at succeeds
  rcases succeeds with follows | ⟨running, again⟩
  · exact follows
  · have create := (counted.completing (by rw [pc]; exact again)).2.2.2
    rw [running] at create
    cases create

theorem Walked.move (walked : controller.Walked) (phased : controller.Phased)
    (counted : controller.Counted) (move : Move controller next) : next.Walked := by
  have role := phased.role
  cases move with
  | close next closes =>
      apply walked.keep closes.perf closes.state closes.announced
      rw [Pc.unstored_of_settled, Pc.unstored_of_settled]
      · exact fun target pc => by simpa [pc, Pc.Closing] using closes.before
      · exact fun target pc => by simpa [pc, Pc.Closing] using closes.after
  | finish next ends =>
      obtain ⟨ending, pc⟩ := ends.pc
      apply walked.keep ends.perf ends.state ends.announced
      rw [Pc.unstored_of_settled ends.settled, pc]
      rfl
  | announce target pc =>
      obtain ⟨log, walk, logged⟩ := walked
      rw [pc] at logged
      exact ⟨log, walk, by simpa [Pc.unstored] using logged⟩
  | store target pc unlocked =>
      obtain ⟨log, walk, logged⟩ := walked
      rw [pc] at logged
      exact ⟨log ++ [target], walk.step (counted.follows phased pc),
        by simpa [Pc.unstored] using logged⟩
  | serverSets target pc client => rw [role] at client; cases client
  | recvCreate stream mailbox total pc server head needed =>
      refine walked.keep rfl rfl rfl ?_
      rw [pc]
      simp only
      split <;> rfl
  | recvStray id mailbox pc head missing =>
      refine walked.keep rfl rfl rfl ?_
      rw [pc]
      simp only [afterTerminatedPc]
      split <;> rfl
  | join id index results task pc found ended =>
      refine walked.keep rfl rfl rfl ?_
      rw [pc]
      simp only [afterTerminatedPc]
      split <;> rfl
  | recvTerminate mailbox pc head =>
      refine walked.keep rfl rfl rfl ?_
      simp only [setStatePc, role, pc]
      rfl
  | shutdown pc signalled =>
      refine walked.keep rfl rfl rfl ?_
      simp only [setStatePc, role, pc]
      rfl
  | greeted total stream pc =>
      refine walked.keep rfl rfl rfl ?_
      rw [pc]
      simp only
      split <;> rfl
  | start pc _ | turn pc _ | createStreams pc _ | pass _ pc _ _ _ _ | startLoad pc _ _
  | stop _ pc | connect _ _ pc _ _ _ | poll pc | pollSignal _ _ pc _ _
  | recvTerminated _ _ _ pc _ _ | serverSays pc _ | greet _ _ pc =>
      exact walked.keep rfl rfl rfl (by rw [pc]; rfl)

/-- What has been announced is in order, even while an announcement is not yet
stored. -/
theorem Walked.inOrder (walked : controller.Walked) (phased : controller.Phased)
    (counted : controller.Counted) :
    InOrder controller.perf.cookie controller.announced := by
  obtain ⟨log, walk, logged⟩ := walked
  rw [logged]
  cases pc : controller.pc with
  | storing target =>
      exact (walk.step (counted.follows phased pc)).inOrder
  | _ =>
      simp only [Pc.unstored, List.append_nil]
      exact walk.inOrder

end Controller

namespace Server

variable {json : Json} {server next : Server} {event : ServerEvent}

/-- No step takes a task away. -/
theorem tasks_length_le (step : server.step json event = some next) :
    server.test.tasks.length ≤ next.test.tasks.length := by
  cases move_of_step step with
  | controller event test move =>
      rcases move.tasks with same | ⟨stream, added⟩
      · exact same ▸ le_rfl
      · simp only [added, List.length_append]
        exact Nat.le_add_right _ _
  | task index event test move => exact move.frame.length.ge
  | ctrlC quiet => exact le_rfl
  | accept event next move => exact move.outside.tasks ▸ le_rfl

/-- The invariant of a test whose stream counter does not wrap. -/
structure Tallied (server : Server) : Prop where
  sound : server.Sound
  counted : server.test.Counted
  walked : server.test.Walked

theorem Tallied.step (tallied : server.Tallied)
    (few : next.test.tasks.length < UInt16.size)
    (step : server.step json event = some next) : next.Tallied := by
  have sound := tallied.sound.step step
  have phased := tallied.sound.phased.test
  cases move_of_step step with
  | controller event test move =>
      have counted := tallied.counted.move phased tallied.sound.registered
        tallied.sound.ordered few move
      exact ⟨sound, counted,
        tallied.walked.move phased tallied.counted move⟩
  | task index event test move =>
      have frame := move.frame
      exact ⟨sound, tallied.counted.taskMove move,
        tallied.walked.keep frame.perf frame.state frame.announced (by rw [frame.pc])⟩
  | ctrlC quiet =>
      exact ⟨sound, tallied.counted.outside (Controller.outside_of_fields _ _ _ _ _),
        tallied.walked⟩
  | accept event next move =>
      have outside := move.outside
      exact ⟨sound, tallied.counted.outside outside,
        tallied.walked.keep outside.perf outside.state outside.announced (by rw [outside.pc])⟩

theorem tallied_of_reachable {build : Build} {perf : Perf} (role : perf.role = .server)
    (reachable : Reachable (Server.step json) (new build perf) server)
    (few : server.test.tasks.length < UInt16.size) : server.Tallied :=
  reachable.invariant_while (fun server => server.test.tasks.length < UInt16.size) Tallied
    (fun _ _ _ step few => (tasks_length_le step).trans_lt few)
    (fun _ _ _ tallied _ few step => tallied.step few step)
    ⟨new_sound build role, Controller.new_counted build perf, [], .start, rfl⟩ few

/-- The perf of a server never changes. -/
theorem perf_of_step (step : server.step json event = some next) :
    next.test.perf = server.test.perf := by
  cases move_of_step step with
  | controller event test move => exact move.perf
  | task index event test move => exact move.frame.perf
  | ctrlC quiet => rfl
  | accept event next move => exact move.outside.perf

theorem perf_of_run {events : List ServerEvent}
    (finished : run (Server.step json) server events = some next) :
    next.test.perf = server.test.perf :=
  Reachable.invariant (fun other => other.test.perf = server.test.perf)
    (fun _ _ _ same step => (perf_of_step step).trans same) rfl ⟨events, finished⟩

theorem perf_of_reachable {build : Build} {perf : Perf}
    (reachable : Reachable (Server.step json) (new build perf) server) :
    server.test.perf = perf := by
  obtain ⟨events, finished⟩ := reachable
  exact perf_of_run finished

/-- The announcements of a server are in order.  `Running` is announced when
the last needed stream has been registered, and `ExchangeResults` when every
registered stream has ended and none is left to be registered. -/
theorem announcements_in_order (json : Json) (build : Build) (cookie : String)
    (params : Parameters)
    (fits : (Perf.newWithStatsReceiver cookie .server params).totalStreams < UInt16.size)
    {server : Server}
    (reachable : Reachable (Server.step json)
      (new build (Perf.newWithStatsReceiver cookie .server params)) server)
    (few : server.test.tasks.length < UInt16.size) :
    InOrder cookie server.test.announced ∧
      ∀ event next, server.step json event = some next →
        (next.test.announced = server.test.announced ++ [.running] →
          next.test.tasks.length = next.test.perf.totalStreams ∧
          next.test.workers.entries.length = next.test.perf.totalStreams) ∧
        (next.test.announced = server.test.announced ++ [.exchangeResults] →
          next.test.workers.entries = [] ∧
          (∀ task ∈ next.test.tasks, task.isFinished = true) ∧
          ∀ stream, .createStream stream ∉ next.test.mailbox.items) := by
  have tallied := tallied_of_reachable rfl reachable few
  have counted := tallied.counted
  have phased := tallied.sound.phased.test
  have own : server.test.perf.cookie = cookie := by rw [perf_of_reachable reachable]; rfl
  have total : server.test.perf.neededStreams = server.test.perf.totalStreams :=
    Perf.neededStreams_of_fits (by rwa [perf_of_reachable reachable])
  constructor
  · exact own ▸ tallied.walked.inOrder phased counted
  · intro event next step
    -- Only the announcement itself adds to the list.
    have target : ∀ state, next.test.announced = server.test.announced ++ [state] →
        server.test.pc = .announcing state ∧ next.test.tasks = server.test.tasks ∧
          next.test.workers = server.test.workers ∧ next.test.perf = server.test.perf ∧
          next.test.mailbox = server.test.mailbox := by
      intro state announced
      rcases announced_of_step step with same | ⟨other, pc, result⟩
      · rw [same] at announced
        simp at announced
      · rw [result] at announced ⊢
        simp only [List.append_cancel_left_eq, List.cons.injEq, and_true] at announced
        exact ⟨announced ▸ pc, rfl, rfl, rfl, rfl⟩
    constructor
    · intro announced
      obtain ⟨pc, tasks, workers, perf, -⟩ := target _ announced
      obtain ⟨-, registered, kept, -⟩ := counted.completing (by rw [pc]; rfl)
      rw [tasks, workers, perf, ← total]
      exact ⟨registered, kept⟩
    · intro announced
      obtain ⟨pc, tasks, workers, -, mailbox⟩ := target _ announced
      have empty := counted.exchanging (.inl pc)
      obtain ⟨id, terminated⟩ := counted.terminated (by rw [pc]; rfl)
      rw [tasks, workers, mailbox]
      constructor
      · exact empty
      constructor
      · intro task taskMem
        obtain ⟨index, found⟩ := List.getElem?_of_mem taskMem
        rcases counted.held_or_finished (by rw [pc]; exact fun closing => closing)
          (by simp [pc]) found with kept | finished
        · have none : server.test.workers.lookup index = none := by
            rw [AList.lookup_eq_none, AList.mem_keys, AList.keys, empty]
            exact List.not_mem_nil
          rw [none] at kept
          cases kept
        · exact finished
      · exact tallied.sound.ordered.not_mem_mailbox terminated

/-- Registering the only stream makes the server announce `Running`. -/
theorem announcements_in_order_one :
    ∃ server next, Reachable (Server.step (.ofCookie "c")) (sample 1) server ∧
      server.step (.ofCookie "c") (.controller (.write true)) = some next ∧
      next.test.announced = [.createStreams "c", .running] ∧
      InOrder "c" server.test.announced ∧ next.test.tasks.length = 1 := by
  let events := opening ++ admission (.presenting (.ofCookie "c") "c" 0) ++ [.controller .recv]
  let reached := run (Server.step (.ofCookie "c")) (sample 1) events
  let server := reached.get rfl
  have reachable : Reachable (Server.step (.ofCookie "c")) (sample 1) server :=
    ⟨events, rfl⟩
  let next := (server.step (.ofCookie "c") (.controller (.write true))).get rfl
  have step : server.step (.ofCookie "c") (.controller (.write true)) = some next := rfl
  have inOrder := announcements_in_order (.ofCookie "c") ⟨true, true⟩ "c" (.fromOpts {})
    (by decide) reachable (by decide)
  exact ⟨server, next, reachable, step, rfl, inOrder.1, ((inOrder.2 _ next step).1 rfl).1⟩

end Server

end Iperf
