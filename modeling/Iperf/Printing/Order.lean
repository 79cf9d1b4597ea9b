import Iperf.Printing.Lines

/-!
# What is printed, and in which order

The lines of all streams are mixed on the screen.  Taken by themselves, the lines of
one stream are its reports in order and then its summary, and the results at the end
are those of this side and then those of its peer.
-/

namespace Iperf

open Channel Transition

/-- Where the keys differ, one key picks at most one element. -/
theorem filter_of_nodup {α β : Type} (key : α → β) {list : List α}
    (nodup : (list.map key).Nodup) {test : α → Bool} {value : β}
    (same : ∀ element ∈ list, test element = true → key element = value) :
    list.filter test = [] ∨ ∃ element, list.filter test = [element] := by
  have picked : (list.filter test).map key =
      List.replicate ((list.filter test).map key).length value := by
    apply List.eq_replicate_of_mem
    intro found foundMem
    rcases List.mem_map.mp foundMem with ⟨element, elementMem, rfl⟩
    rcases List.mem_filter.mp elementMem with ⟨inList, holds⟩
    exact same element inList holds
  have apart : ((list.filter test).map key).Nodup :=
    nodup.sublist (List.filter_sublist.map key)
  rw [picked, List.nodup_replicate, List.length_map] at apart
  cases chosen : list.filter test with
  | nil => exact .inl rfl
  | cons element rest =>
      right
      rw [chosen, List.length_cons] at apart
      have none : rest = [] := List.eq_nil_of_length_eq_zero (by omega)
      exact ⟨element, by rw [none]⟩

/-- The first reports account for less. -/
theorem Tally.take {reports : List StreamStats} {count bytes : Nat}
    (tally : Tally reports count bytes) (length : Nat) :
    ∃ count bytes, Tally (reports.take length) count bytes := by
  refine ⟨min length count, _, ?_, rfl⟩
  rw [List.map_take, tally.numbered, ← List.map_take, List.take_range]

/-- What is printed first of the lines of a stream is no less in order. -/
theorem Complete.of_first {own first : List StreamStats} (complete : Complete own)
    (earlier : first <+: own) : Complete first := by
  rcases complete with ⟨reports, count, bytes, tally, whole⟩
  have partly : first <+: reports → Complete first := by
    intro inside
    rw [List.prefix_iff_eq_take.mp inside]
    rcases tally.take first.length with ⟨fewer, less, partial_⟩
    exact ⟨_, fewer, less, partial_, .inl rfl⟩
  rcases whole with same | ⟨summary, same, rest⟩
  · exact partly (same ▸ earlier)
  · rw [same] at earlier
    rcases List.prefix_concat_iff.mp earlier with all | inside
    · exact ⟨reports, count, bytes, tally, .inr ⟨summary, all, rest⟩⟩
    · exact partly inside

namespace Controller

variable {controller : Controller} {lines : List StreamStats}

/-- The results that are kept are kept under different ids. -/
theorem Shown.ids_nodup (shown : controller.Shown lines)
    (few : controller.tasks.length < UInt16.size) : (controller.summaries.map (·.id)).Nodup := by
  rcases shown.gathered with ⟨joined, gathered⟩
  have same : controller.summaries.map (·.id) = controller.streamResults.entries.map (·.1) := by
    rw [summaries, List.map_map]
    apply List.map_congr_left
    intro entry entryMem
    rcases List.mem_map.mp (gathered.collected.entries.mem_iff.mp entryMem) with
      ⟨got, gotMem, rfl⟩
    exact (gathered.id_eq shown.registered few gotMem).1
  rw [same]
  exact controller.streamResults.nodupKeys

/-- The results of this side among those that are forwarded. -/
theorem Shown.locals_nodup (shown : controller.Shown lines)
    (few : controller.tasks.length < UInt16.size) {left locals : List StreamStats}
    (perm : (locals ++ left).Perm controller.summaries) : (locals.map (·.id)).Nodup := by
  have nodup := ((perm.map (·.id)).nodup_iff).mpr (shown.ids_nodup few)
  rw [List.map_append] at nodup
  exact (List.nodup_append.mp nodup).1

/-- No stream has two results among those that are forwarded. -/
theorem Shown.result_of_stream (shown : controller.Shown lines)
    (few : controller.tasks.length < UInt16.size) (index : Nat) :
    controller.forwarded.filter (·.isOfStream index) = [] ∨
      ∃ summary, controller.forwarded.filter (·.isOfStream index) = [summary] := by
  rcases shown.handed.atEnd with ⟨left, locals, peers, whole, marked, perm, -⟩
  have none : peers.filter (·.isOfStream index) = [] := by
    apply List.filter_eq_nil_iff.mpr
    intro line lineMem ofStream
    cases (marked line lineMem).symm.trans (StreamStats.isOfStream_iff.mp ofStream).2
  rw [whole, List.filter_append, none, List.append_nil]
  apply filter_of_nodup (·.id) (shown.locals_nodup few perm)
  exact fun line _ ofStream => (StreamStats.isOfStream_iff.mp ofStream).1

/-- The lines of a stream are its reports and its result, if that is forwarded. -/
theorem Shown.complete (shown : controller.Shown lines)
    (few : controller.tasks.length < UInt16.size) (index : Nat) :
    Complete (lines.filter (·.isOfStream index)) := by
  rw [shown.ofStream]
  cases found : controller.tasks[index]? with
  | none =>
      have silent : controller.forwarded.filter (·.isOfStream index) = [] := by
        apply List.filter_eq_nil_iff.mpr
        intro line lineMem ofStream
        rcases StreamStats.isOfStream_iff.mp ofStream with ⟨id, own⟩
        rcases shown.ended few lineMem own with ⟨task, foundTask, -⟩
        rw [id, found] at foundTask
        cases foundTask
      rw [silent, reportsOf, found]
      exact ⟨[], 0, 0, tally_nil, .inl rfl⟩
  | some task =>
      have recorded := shown.recorded task (List.mem_of_getElem? found)
      rw [reportsOf_of_found found]
      rcases shown.result_of_stream few index with none | ⟨summary, one⟩
      · rcases recorded.tallied.tally with ⟨count, bytes, tally⟩
        rw [none, List.append_nil]
        exact ⟨_, count, bytes, tally, .inl rfl⟩
      · have summaryMem : summary ∈ controller.forwarded.filter (·.isOfStream index) := by
          rw [one]
          exact List.mem_cons_self
        rcases List.mem_filter.mp summaryMem with ⟨lineMem, ofStream⟩
        rcases StreamStats.isOfStream_iff.mp ofStream with ⟨id, own⟩
        rcases shown.ended few lineMem own with ⟨other, foundOther, phase⟩
        rw [id, found] at foundOther
        cases foundOther
        rcases recorded.result (.inr phase) with ⟨-, -, final, last, tally⟩
        rw [one]
        exact ⟨_, last + 1, _, tally, .inr ⟨summary, rfl, final, Nat.succ_pos last, rfl⟩⟩

end Controller

namespace Printout

variable {build : Build} {perf : Perf} {shutdown : Shutdown} {printout next : Printout}

/-- Streams are only added. -/
theorem length_of_step {event : PrintoutEvent} (step : printout.step event = some next) :
    printout.controller.tasks.length ≤ next.controller.tasks.length := by
  have side : ∀ event, printout.controller.step event = some next.controller →
      printout.controller.tasks.length ≤ next.controller.tasks.length := by
    intro event moved
    cases Controller.happens_of_step moved with
    | controller event _ move => exact move.length_tasks_le
    | task index event _ move => exact Nat.le_of_eq move.frame.length.symm
    | outside event _ outside => rw [outside.tasks]
  cases move_of_step step with
  | quiet event genuine moved silent told kept => exact side event moved
  | line event genuine line moved offered running open_ added => exact side event moved
  | print line kept running open_ lines printed => rw [kept]
  | atEnd kept gone lines printed => rw [kept]

/-- The lines show the test, all along every run. -/
theorem shown_of_reachable
    (reachable : Reachable Printout.step (.new build perf shutdown) printout)
    (few : printout.controller.tasks.length < UInt16.size) :
    printout.controller.Shown printout.lines := by
  apply reachable.invariant_while
    (fun printout => printout.controller.tasks.length < UInt16.size)
    (fun printout => printout.controller.Shown printout.lines) _ _ _ few
  · intro source event target step fewer
    exact (length_of_step step).trans_lt fewer
  · intro source event target shown few _ step
    cases move_of_step step with
    | quiet event genuine moved silent told kept =>
        rw [lines, kept]
        exact (shown.step few genuine moved).1 silent
    | line event genuine line moved offered running open_ added =>
        rw [added]
        exact (shown.step few genuine moved).2 line offered
    | print line kept running open_ lines printed =>
        rw [lines, kept]
        exact shown
    | atEnd kept gone lines printed =>
        rw [lines, kept]
        exact shown
  · exact Controller.new_shown build perf shutdown

end Printout

/-- Whatever the streams and the printing loop do, the lines of a stream, those that are
printed as well as these with those that wait to be, are its reports, numbered from zero
without a gap, and then at most its summary, which adds them up. -/
theorem Printout.printed_of_stream (build : Build) (perf : Perf) (shutdown : Shutdown)
    {printout : Printout}
    (reachable : Reachable Printout.step (.new build perf shutdown) printout)
    (few : printout.controller.tasks.length < UInt16.size) (index : Nat) :
    Complete (printout.printed.filter (·.isOfStream index)) ∧
      Complete (printout.lines.filter (·.isOfStream index)) := by
  have complete : Complete (printout.lines.filter (·.isOfStream index)) :=
    (shown_of_reachable reachable few).complete few index
  exact ⟨complete.of_first (printout.stats.taken_first.filter _), complete⟩

/-- Half of the lines are printed, the others wait. -/
private def Printout.waitingLines : List PrintoutEvent :=
  oneStream.map .side ++ [.print, .print]

private theorem Printout.waitingLines_runs :
    (run Printout.step sample waitingLines).isSome = true := by
  decide +kernel

theorem Printout.printed_of_stream_one :
    ∃ printout, Reachable Printout.step sample printout ∧ printout.printed.length = 2 ∧
      printout.lines.length = 4 ∧
      Complete (printout.printed.filter (·.isOfStream 0)) ∧
      Complete (printout.lines.filter (·.isOfStream 0)) := by
  let printout := (run Printout.step sample waitingLines).get waitingLines_runs
  have reachable : Reachable Printout.step sample printout :=
    ⟨waitingLines, (Option.some_get waitingLines_runs).symm⟩
  have few : printout.controller.tasks.length < UInt16.size := by decide +kernel
  have printed : printout.printed.length = 2 := by decide +kernel
  have lines : printout.lines.length = 4 := by decide +kernel
  exact ⟨printout, reachable, printed, lines, printed_of_stream _ _ _ reachable few 0⟩

/-- The results that are printed: first those of this side, each the result of a stream
of its own that has ended and no stream twice, then those of the peer.  Once one of the
peer's is printed, all that this side has collected are. -/
structure Printout.InOrder (controller : Controller) (own peers : List StreamStats) : Prop where
  ended : ∀ line ∈ own, line.isPeer = false ∧
    ∃ task, controller.tasks[line.id]? = some task ∧ task.phase = .finished (.ok line)
  once : (own.map (·.id)).Nodup
  marked : AllPeer peers
  whole : peers ≠ [] → own.Perm controller.summaries

theorem Controller.Shown.inOrder {controller : Controller} {lines printed : List StreamStats}
    (shown : controller.Shown lines) (few : controller.tasks.length < UInt16.size)
    (earlier : printed <+: lines) :
    ∃ own peers, printed.filter StreamStats.isFinal = own ++ peers ∧
      Printout.InOrder controller own peers := by
  rcases shown.handed.atEnd with ⟨left, locals, peers, whole, marked, perm, last⟩
  have first := earlier.filter StreamStats.isFinal
  rw [shown.final, whole, List.prefix_iff_eq_take, List.take_append] at first
  refine ⟨_, _, first, ?_⟩
  have isLocal : ∀ line ∈ locals, line.isPeer = false := by
    intro line lineMem
    have held : line ∈ controller.summaries := perm.mem_iff.mp (List.mem_append_left _ lineMem)
    rcases List.mem_map.mp held with ⟨entry, entryMem, rfl⟩
    rcases shown.gathered with ⟨joined, gathered⟩
    rcases List.mem_map.mp (gathered.collected.entries.mem_iff.mp entryMem) with
      ⟨got, gotMem, rfl⟩
    exact (gathered.id_eq shown.registered few gotMem).2
  constructor
  · intro line lineMem
    have inside : line ∈ locals := List.mem_of_mem_take lineMem
    have forwarded : line ∈ controller.forwarded := by
      rw [whole]
      exact List.mem_append_left _ inside
    exact ⟨isLocal line inside, shown.ended few forwarded (isLocal line inside)⟩
  · have nodup := shown.locals_nodup few perm
    rw [List.map_take]
    exact nodup.sublist (List.take_sublist _ _)
  · exact fun line lineMem => marked line (List.mem_of_mem_take lineMem)
  · intro some
    have none : left = [] := by
      apply last.resolve_left
      intro empty
      rw [empty, List.take_nil] at some
      exact some rfl
    have past : locals.length ≤ (printed.filter StreamStats.isFinal).length := by
      by_contra short
      rw [Nat.sub_eq_zero_of_le (Nat.le_of_not_le short), List.take_zero] at some
      exact some rfl
    rw [none, List.append_nil] at perm
    rw [List.take_of_length_le past]
    exact perm

/-- The results are printed in order, in every state of every run. -/
theorem Printout.results_in_order (build : Build) (perf : Perf) (shutdown : Shutdown)
    {printout : Printout}
    (reachable : Reachable Printout.step (.new build perf shutdown) printout)
    (few : printout.controller.tasks.length < UInt16.size) :
    ∃ own peers, printout.printed.filter StreamStats.isFinal = own ++ peers ∧
      InOrder printout.controller own peers :=
  (shown_of_reachable reachable few).inOrder few printout.stats.taken_first

theorem Printout.results_in_order_one :
    ∃ printout own peers, Reachable Printout.step sample printout ∧
      printout.printed.filter StreamStats.isFinal = own ++ peers ∧ (own ++ peers).length = 2 ∧
      InOrder printout.controller own peers := by
  let printout := (run Printout.step sample printedTest).get printedTest_runs
  have reachable : Reachable Printout.step sample printout :=
    ⟨printedTest, (Option.some_get printedTest_runs).symm⟩
  have few : printout.controller.tasks.length < UInt16.size := by decide +kernel
  have two : (printout.printed.filter StreamStats.isFinal).length = 2 := by decide +kernel
  rcases results_in_order _ _ _ reachable few with ⟨own, peers, split, inOrder⟩
  rw [split] at two
  exact ⟨printout, own, peers, reachable, split, two, inOrder⟩

end Iperf
