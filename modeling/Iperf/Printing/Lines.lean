import Iperf.Printing.Results

/-!
# The lines of a stream

Many workers send on one channel, and the lines of all streams are mixed.  Those of
one stream are still in order: its reports, numbered from zero, and at the end its
summary, if the result of the stream was collected.
-/

namespace Iperf

open Channel Transition

/-- About a stream of this side. -/
def StreamStats.isOfStream (index : Nat) (line : StreamStats) : Bool :=
  line.id == index && !line.isPeer

/-- One of the results that are forwarded at the end. -/
def StreamStats.isFinal (line : StreamStats) : Bool :=
  line.isPeer || line.isSummary

/-- The lines of one stream: numbered reports, and at most a summary that adds them up. -/
def Complete (own : List StreamStats) : Prop :=
  ∃ reports count bytes, Tally reports count bytes ∧
    (own = reports ∨
      ∃ summary, own = reports ++ [summary] ∧ summary.isSummary = true ∧ 0 < count ∧
        summary.bytesTransferred = bytes)

theorem filter_concat_of_pos {test : StreamStats → Bool} {lines : List StreamStats}
    {line : StreamStats} (holds : test line = true) :
    (lines ++ [line]).filter test = lines.filter test ++ [line] := by
  rw [List.filter_append, List.filter_cons_of_pos holds, List.filter_nil]

theorem filter_concat_of_neg {test : StreamStats → Bool} {lines : List StreamStats}
    {line : StreamStats} (fails : test line = false) :
    (lines ++ [line]).filter test = lines.filter test := by
  rw [List.filter_append, List.filter_cons_of_neg (by simp [fails]), List.filter_nil,
    List.append_nil]

theorem StreamStats.isOfStream_iff {index : Nat} {line : StreamStats} :
    line.isOfStream index = true ↔ line.id = index ∧ line.isPeer = false := by
  simp [isOfStream]

/-- A report is no result. -/
theorem Task.Recorded.report {task : Task} (recorded : task.Recorded) {line : StreamStats}
    (handing : task.worker.handingOut = [line])
    (unreturned : ∀ result, task.worker.pc ≠ .returned result) :
    line.id = task.worker.id ∧ line.isPeer = false ∧ line.isFinal = false := by
  have own : line.IsOf task.worker.id := by
    apply recorded.labelled
    rw [StreamWorker.emitted, handing]
    exact List.mem_append_right _ List.mem_cons_self
  have tallied := recorded.tallied
  have indexed : line.index.isNone = false := by
    simp only [StreamWorker.handingOut] at handing
    split at handing
    · rename_i stage
      simp only [StreamWorker.Tallied, stage] at tallied
      rw [← List.singleton_inj.mp handing, tallied.2.1]
      rfl
    · rename_i stage
      simp only [StreamWorker.Tallied, stage] at tallied
      rw [← List.singleton_inj.mp handing, tallied.2.1]
      rfl
    · rename_i stage
      exact absurd stage (unreturned _)
    · cases handing
  refine ⟨own.id, own.isPeer, ?_⟩
  rw [StreamStats.isFinal, own.isPeer, own.isSummary, indexed]
  rfl

namespace Controller

variable {controller next : Controller}

/-- The test is as the lines show it. -/
structure Shown (lines : List StreamStats) (controller : Controller) : Prop where
  registered : controller.Registered
  gathered : ∃ joined, controller.Gathered joined
  recorded : ∀ task ∈ controller.tasks, task.Recorded
  handed : controller.Handed
  final : lines.filter StreamStats.isFinal = controller.forwarded
  ofStream : ∀ index, lines.filter (·.isOfStream index) =
    controller.reportsOf index ++ controller.forwarded.filter (·.isOfStream index)

variable {lines : List StreamStats}

theorem new_shown (build : Build) (perf : Perf) (shutdown : Shutdown) :
    Shown [] { new build perf with shutdown } := by
  have aside : Aside (new build perf) { new build perf with shutdown } :=
    aside_of_fields _ _ _ _ _
  have outside : Outside (new build perf) { new build perf with shutdown } :=
    outside_of_fields _ _ _ _ _
  constructor
  · exact (new_registered build perf).outside outside (fun _ idMem => idMem)
      (fun _ kept => kept) fun _ lost => lost
  · exact ⟨[], (new_gathered build perf).rests (.outside aside outside)⟩
  · rintro task ⟨⟩
  · exact (new_handed build perf).aside aside
  · rfl
  · exact fun _ => rfl

/-- What this side has forwarded of its own is the result of a stream that has ended. -/
theorem Shown.ended (shown : controller.Shown lines)
    (few : controller.tasks.length < UInt16.size) {line : StreamStats}
    (lineMem : line ∈ controller.forwarded) (own : line.isPeer = false) :
    ∃ task, controller.tasks[line.id]? = some task ∧ task.phase = .finished (.ok line) := by
  rcases shown.handed.atEnd with ⟨left, locals, peers, whole, marked, perm, -⟩
  rcases shown.gathered with ⟨joined, gathered⟩
  rw [whole] at lineMem
  rcases List.mem_append.mp lineMem with isLocal | isPeer
  · have held : line ∈ controller.summaries := perm.mem_iff.mp (List.mem_append_left _ isLocal)
    rcases List.mem_map.mp held with ⟨entry, entryMem, rfl⟩
    rcases List.mem_map.mp (gathered.collected.entries.mem_iff.mp entryMem) with
      ⟨got, gotMem, rfl⟩
    have id := (gathered.id_eq shown.registered few gotMem).1
    have ended := gathered.collected.ended got gotMem
    rcases Option.map_eq_some_iff.mp ended with ⟨task, found, phase⟩
    refine ⟨task, ?_, phase⟩
    rw [id]
    exact found
  · rw [marked line isPeer] at own
    cases own

/-- Nothing of a stream is forwarded while its worker runs. -/
theorem Shown.unforwarded (shown : controller.Shown lines)
    (few : controller.tasks.length < UInt16.size) {index : Nat} {task : Task}
    (found : controller.tasks[index]? = some task) (phase : task.phase = .working) :
    controller.forwarded.filter (·.isOfStream index) = [] := by
  apply List.filter_eq_nil_iff.mpr
  intro line lineMem ofStream
  rcases StreamStats.isOfStream_iff.mp ofStream with ⟨id, own⟩
  rcases shown.ended few lineMem own with ⟨other, foundOther, ended⟩
  rw [id, found] at foundOther
  cases foundOther
  rw [phase] at ended
  cases ended

/-- A result is forwarded. -/
theorem Shown.forward (shown : controller.Shown lines) (registered : next.Registered)
    (gathered : ∃ joined, next.Gathered joined) (recorded : ∀ task ∈ next.tasks, task.Recorded)
    (handed : next.Handed)
    (reports : ∀ index, next.reportsOf index = controller.reportsOf index) {line : StreamStats}
    (sent : next.forwarded = controller.forwarded ++ [line]) : next.Shown (lines ++ [line]) := by
  have isFinal : line.isFinal = true := by
    cases own : line.isPeer with
    | true => rw [StreamStats.isFinal, own, Bool.true_or]
    | false =>
        rcases handed.atEnd with ⟨left, locals, peers, whole, marked, perm, -⟩
        rcases gathered with ⟨joined, gathered⟩
        have lineMem : line ∈ next.forwarded := by
          rw [sent]
          exact List.mem_append_right _ List.mem_cons_self
        rw [whole] at lineMem
        rcases List.mem_append.mp lineMem with isLocal | isPeer
        · have held : line ∈ next.summaries := perm.mem_iff.mp (List.mem_append_left _ isLocal)
          rcases List.mem_map.mp held with ⟨entry, entryMem, rfl⟩
          rcases List.mem_map.mp (gathered.collected.entries.mem_iff.mp entryMem) with
            ⟨got, gotMem, rfl⟩
          rcases Option.map_eq_some_iff.mp (gathered.collected.ended got gotMem) with
            ⟨task, found, phase⟩
          have result := (recorded task (List.mem_of_getElem? found)).result (.inr phase)
          simp only [StreamStats.isFinal, result.2.2.1, Bool.or_true]
        · rw [marked line isPeer] at own
          cases own
  constructor
  · exact registered
  · exact gathered
  · exact recorded
  · exact handed
  · rw [filter_concat_of_pos isFinal, shown.final, sent]
  · intro index
    rw [List.filter_append, shown.ofStream index, reports, sent, List.filter_append,
      List.append_assoc]

/-- A report is sent. -/
theorem Shown.report (shown : controller.Shown lines) (registered : next.Registered)
    (gathered : ∃ joined, next.Gathered joined) (recorded : ∀ task ∈ next.tasks, task.Recorded)
    (handed : next.Handed) (few : controller.tasks.length < UInt16.size)
    (forwarded : next.forwarded = controller.forwarded) {index : Nat} {task : Task}
    {line : StreamStats} (found : controller.tasks[index]? = some task)
    (phase : task.phase = .working)
    (unreturned : ∀ result, task.worker.pc ≠ .returned result)
    (handing : task.worker.handingOut = [line])
    (reported : ∀ position, next.reportsOf position =
      if index = position then controller.reportsOf position ++ [line]
      else controller.reportsOf position) : next.Shown (lines ++ [line]) := by
  have within := (List.getElem?_eq_some_iff.mp found).1
  rcases (shown.recorded task (List.mem_of_getElem? found)).report handing unreturned with
    ⟨id, own, notFinal⟩
  rw [(shown.registered.identity index task found).1, Nat.mod_eq_of_lt (within.trans few)] at id
  constructor
  · exact registered
  · exact gathered
  · exact recorded
  · exact handed
  · rw [filter_concat_of_neg notFinal, shown.final, forwarded]
  · intro position
    rw [reported, forwarded]
    by_cases same : index = position
    · subst same
      have ofStream : line.isOfStream index = true := StreamStats.isOfStream_iff.mpr ⟨id, own⟩
      rw [if_pos rfl, filter_concat_of_pos ofStream, shown.ofStream,
        shown.unforwarded few found phase, List.append_nil, List.append_nil]
    · have other : line.isOfStream position = false := by
        apply eq_false_of_ne_true
        intro ofStream
        exact same (id.symm.trans (StreamStats.isOfStream_iff.mp ofStream).1)
      rw [if_neg same, filter_concat_of_neg other, shown.ofStream]

/-- Nothing is sent. -/
theorem Shown.quiet (shown : controller.Shown lines) (registered : next.Registered)
    (gathered : ∃ joined, next.Gathered joined) (recorded : ∀ task ∈ next.tasks, task.Recorded)
    (handed : next.Handed) (forwarded : next.forwarded = controller.forwarded)
    (reports : ∀ index, next.reportsOf index = controller.reportsOf index) :
    next.Shown lines where
  registered := registered
  gathered := gathered
  recorded := recorded
  handed := handed
  final := shown.final.trans forwarded.symm
  ofStream := by
    intro index
    rw [shown.ofStream, reports, forwarded]

/-! ## The steps of a test -/

theorem Shown.controllerStep (shown : controller.Shown lines)
    (few : controller.tasks.length < UInt16.size)
    {event : ControllerEvent} (step : controller.controllerStep event = some next) :
    (controller.offers (.controller event) = none → next.Shown lines) ∧
      ∀ line, controller.offers (.controller event) = some line →
        next.Shown (lines ++ [line]) := by
  have move := move_of_controllerStep step
  have registered := shown.registered.move move
  have recorded := recorded_of_tasks shown.recorded move.tasks
  have gathered : ∃ joined, next.Gathered joined := by
    rcases shown.gathered with ⟨joined, gathered⟩
    exact ⟨_, gathered.step shown.registered few step⟩
  have reports := reportsOf_of_tasks move.tasks
  rcases shown.handed.step step with ⟨handed, sends⟩
  cases sends with
  | silent offered kept =>
      constructor
      · intro _
        exact shown.quiet registered gathered recorded handed kept reports
      · intro line other
        cases offered.symm.trans other
  | line line forwarding offered sent =>
      constructor
      · intro none
        cases offered.symm.trans none
      · intro other same
        cases offered.symm.trans same
        exact shown.forward registered gathered recorded handed reports sent

theorem Shown.taskStep (shown : controller.Shown lines)
    (few : controller.tasks.length < UInt16.size) {index : Nat} {event : TaskEvent}
    (step : controller.taskStep index event = some next) :
    (controller.offers (.task index event) = none → next.Shown lines) ∧
      ∀ line, controller.offers (.task index event) = some line →
        next.Shown (lines ++ [line]) := by
  have move := move_of_taskStep step
  have registered := shown.registered.taskMove move
  have recorded := recorded_of_taskStep shown.recorded step
  have handed := shown.handed.aside move.aside
  have forwarded := move.aside.forwarded
  have gathered : ∃ joined, next.Gathered joined := by
    rcases shown.gathered with ⟨joined, gathered⟩
    exact ⟨joined, gathered.rests (.task index event step)⟩
  cases sends_of_taskStep step with
  | silent offered kept =>
      constructor
      · intro _
        exact shown.quiet registered gathered recorded handed forwarded kept
      · intro line other
        cases offered.symm.trans other
  | line task line found phase unreturned handing offered reported =>
      constructor
      · intro none
        cases offered.symm.trans none
      · intro other same
        cases offered.symm.trans same
        exact shown.report registered gathered recorded handed few forwarded found phase
          unreturned handing reported

/-- What others do is not seen in the lines. -/
theorem Shown.others (shown : controller.Shown lines) (locked : Bool) (shutdown : Shutdown)
    {mailbox : Queue ControllerMessage internalPortBuffer} {lost : List ControllerMessage}
    (posts : ∀ id, .streamTerminated id ∈ controller.received ++ mailbox.items →
      .streamTerminated id ∈ controller.accepted)
    (kept : ∀ message ∈ controller.mailbox.items, message ∈ mailbox.items)
    (mono : ∀ message ∈ controller.lost, message ∈ lost) :
    Shown lines { controller with locked, shutdown, mailbox, lost } := by
  have aside := aside_of_fields controller locked shutdown mailbox lost
  have outside := outside_of_fields controller locked shutdown mailbox lost
  apply shown.quiet
  · exact shown.registered.outside outside posts (fun id => kept (.streamTerminated id)) mono
  · rcases shown.gathered with ⟨joined, gathered⟩
    exact ⟨joined, gathered.rests (.outside aside outside)⟩
  · exact shown.recorded
  · exact shown.handed.aside aside
  · rfl
  · exact fun _ => rfl

theorem Shown.step (shown : controller.Shown lines)
    (few : controller.tasks.length < UInt16.size)
    {event : Event} (genuine : event.isGenuine = true)
    (step : controller.step event = some next) :
    (controller.offers event = none → next.Shown lines) ∧
      ∀ line, controller.offers event = some line → next.Shown (lines ++ [line]) := by
  cases event with
  | controller event => exact shown.controllerStep few step
  | task index event => exact shown.taskStep few step
  | ctrlC | acquire | release =>
      simp only [Controller.step] at step
      split at step <;> cases step
      constructor
      · intro _
        exact shown.others _ _ (fun _ idMem => idMem) (fun _ kept => kept) fun _ lost => lost
      · rintro line ⟨⟩
  | post message =>
      simp only [Controller.step] at step
      cases step
      rcases trySend_eq controller message with ⟨mailbox, lost, posts, result⟩
      rw [result]
      constructor
      · intro _
        apply shown.others controller.locked controller.shutdown _ posts.mono.1 posts.mono.2
        intro id idMem
        rcases posts.accepted with same | added
        · rw [same] at idMem
          exact idMem
        · rw [added] at idMem
          rcases List.mem_append.mp idMem with old | new
          · exact old
          · rw [← List.mem_singleton.mp new] at genuine
            cases genuine
      · rintro line ⟨⟩

end Controller

end Iperf
