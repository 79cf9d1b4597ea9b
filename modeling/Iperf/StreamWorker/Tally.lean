import Iperf.StreamWorker.Emission

/-!
# What the reports of a worker say, whatever the clock does

Every line of a worker carries its id.  Its reports number the intervals from zero
and add up to the bytes that have been moved, without any assumption about the
clock or the socket.
-/

namespace Iperf

open Channel

/-- A line about the stream `id`: a report has an index, the summary has none. -/
structure StreamStats.IsOf (id : Nat) (stats : StreamStats) : Prop where
  id : stats.id = id
  isPeer : stats.isPeer = false
  isSummary : stats.isSummary = stats.index.isNone

/-- The reports number `count` intervals and hold `bytes` bytes. -/
structure Tally (reports : List StreamStats) (count bytes : Nat) : Prop where
  numbered : reports.map (·.index) = (List.range count).map some
  bytes : (reports.map (·.bytesTransferred)).sum = bytes

theorem tally_nil : Tally [] 0 0 :=
  ⟨rfl, rfl⟩

/-- One more report. -/
theorem Tally.concat {reports : List StreamStats} {count bytes : Nat}
    (tally : Tally reports count bytes) {stats : StreamStats} (index : stats.index = some count) :
    Tally (reports ++ [stats]) (count + 1) (bytes + stats.bytesTransferred) where
  numbered := by
    rw [List.map_append, tally.numbered, List.range_succ, List.map_append]
    simp only [List.map_cons, List.map_nil, index]
  bytes := by
    rw [List.map_append, List.sum_append, tally.bytes, List.map_singleton, List.sum_singleton]

/-- Reports are told apart from summaries by their index. -/
theorem Tally.isSome {reports : List StreamStats} {count bytes : Nat}
    (tally : Tally reports count bytes) {stats : StreamStats} (statsMem : stats ∈ reports) :
    stats.index.isSome = true := by
  have indexMem : stats.index ∈ reports.map (·.index) := List.mem_map_of_mem statsMem
  rw [tally.numbered] at indexMem
  rcases List.mem_map.mp indexMem with ⟨index, -, same⟩
  rw [← same]
  rfl

namespace StreamWorker

variable {build : Build} {channel : Publisher} {worker next : StreamWorker}

/-- The reports so far and the bytes of the interval that has begun. -/
def Sums (worker : StreamWorker) (progress : Progress) : Prop :=
  ∃ before, Tally worker.reports progress.index before ∧
    before + progress.bytesTransferred = progress.totalBytesTransferred

/-- What the reports of a worker add up to. -/
def Tallied (worker : StreamWorker) : Prop :=
  match worker.pc with
  | .waiting => worker.reports = []
  | .head progress | .transferring progress | .leaving progress => worker.Sums progress
  | .reporting progress _ stats | .closing progress stats =>
      worker.Sums progress ∧ stats.index = some progress.index ∧
        stats.bytesTransferred = progress.bytesTransferred
  | .summarizing progress =>
      ∃ last, Tally worker.reports (last + 1) progress.totalBytesTransferred
  | .returned (.ok summary) =>
      ∃ last, Tally worker.reports (last + 1) summary.bytesTransferred
  | .returned (.error _) => ∃ count bytes, Tally worker.reports count bytes

theorem new_tallied (id : Nat) (params : Parameters) (isSending : Bool) (receiver : Receiver) :
    (new id params isSending receiver).Tallied :=
  rfl

theorem Sums.add {progress : Progress} (sums : worker.Sums progress)
    (kept : next.reports = worker.reports) (count : Nat) :
    next.Sums (progress.add count) := by
  rcases sums with ⟨before, tally, total⟩
  rw [Sums, kept]
  refine ⟨before, tally, ?_⟩
  rw [Progress.add, ← total, Nat.add_assoc]

theorem Sums.keep {progress : Progress} (sums : worker.Sums progress)
    (kept : next.reports = worker.reports) : next.Sums progress := by
  rw [Sums, kept]
  exact sums

/-- A report that is sent closes its interval. -/
theorem Sums.report {progress : Progress} (sums : worker.Sums progress) {stats : StreamStats}
    (index : stats.index = some progress.index)
    (bytes : stats.bytesTransferred = progress.bytesTransferred)
    (sent : next.reports = worker.reports ++ [stats]) :
    Tally next.reports (progress.index + 1) progress.totalBytesTransferred := by
  rcases sums with ⟨before, tally, total⟩
  rw [sent, ← total, ← bytes]
  exact tally.concat index

/-- Whatever a worker is doing, its reports are numbered. -/
theorem Tallied.tally (tallied : worker.Tallied) :
    ∃ count bytes, Tally worker.reports count bytes := by
  unfold Tallied at tallied
  split at tallied
  · rw [tallied]
    exact ⟨0, 0, tally_nil⟩
  · rcases tallied with ⟨before, tally, -⟩
    exact ⟨_, before, tally⟩
  · rcases tallied with ⟨before, tally, -⟩
    exact ⟨_, before, tally⟩
  · rcases tallied with ⟨before, tally, -⟩
    exact ⟨_, before, tally⟩
  · rcases tallied with ⟨⟨before, tally, -⟩, -⟩
    exact ⟨_, before, tally⟩
  · rcases tallied with ⟨⟨before, tally, -⟩, -⟩
    exact ⟨_, before, tally⟩
  · rcases tallied with ⟨last, tally⟩
    exact ⟨_, _, tally⟩
  · rcases tallied with ⟨last, tally⟩
    exact ⟨_, _, tally⟩
  · exact tallied

theorem Tallied.step {event : WorkerEvent} (tallied : worker.Tallied)
    (step : worker.step build channel event = some next) : next.Tallied := by
  have numbered := tallied.tally
  cases entry_of_step step with
  | start startTime intervalStart stage result kept =>
      simp only [Tallied, stage] at tallied
      simp only [Tallied, result]
      rw [Sums, kept, tallied]
      exact ⟨0, tally_nil, rfl⟩
  | fail _ error result kept =>
      simp only [Tallied, result, kept]
      exact numbered
  | enter now progress stage continues result kept =>
      simp only [Tallied, stage] at tallied
      simp only [Tallied, result]
      exact tallied.keep kept
  | stop now progress stage result kept =>
      simp only [Tallied, stage] at tallied
      simp only [Tallied, result]
      exact tallied.keep kept
  | gone now info progress stage result kept =>
      simp only [Tallied, stage] at tallied
      simp only [Tallied, result]
      exact tallied.keep kept
  | carry outcome now info progress stage goesOn early result kept =>
      simp only [Tallied, stage] at tallied
      simp only [Tallied, result]
      exact tallied.add kept _
  | due outcome now info progress lastCwnd stats stage goesOn late covers result kept =>
      simp only [Tallied, stage] at tallied
      simp only [Tallied, result]
      exact ⟨tallied.add kept _, covers.index, covers.bytesTransferred⟩
  | report progress now stats stage result sent =>
      simp only [Tallied, stage] at tallied
      simp only [Tallied, result]
      rcases tallied with ⟨sums, index, bytes⟩
      exact ⟨_, sums.report index bytes sent, rfl⟩
  | close now info progress stats stage covers result kept =>
      simp only [Tallied, stage] at tallied
      simp only [Tallied, result]
      exact ⟨tallied.keep kept, covers.index, covers.bytesTransferred⟩
  | finish progress stats stage result sent =>
      simp only [Tallied, stage] at tallied
      simp only [Tallied, result]
      rcases tallied with ⟨sums, index, bytes⟩
      exact ⟨_, sums.report index bytes sent⟩
  | summarize now info progress stats stage duration bytes result kept =>
      simp only [Tallied, stage] at tallied
      simp only [Tallied, result, kept, bytes]
      exact tallied

/-! ## Whose a line is -/

/-- Every line of the worker carries its id. -/
def Labelled (worker : StreamWorker) : Prop :=
  ∀ stats ∈ worker.emitted, stats.IsOf worker.id

theorem new_labelled (id : Nat) (params : Parameters) (isSending : Bool)
    (receiver : Receiver) : (new id params isSending receiver).Labelled := by
  rintro stats ⟨⟩

theorem isOf_currentStats (build : Build) (worker : StreamWorker)
    (index currentDuration bytesTransferred : Nat) (info : Option TcpInfo) :
    (worker.currentStats build index currentDuration bytesTransferred info).IsOf worker.id :=
  ⟨rfl, rfl, rfl⟩

theorem isOf_summary (build : Build) (worker : StreamWorker) (progress : Progress) (now : Nat)
    (info : Option TcpInfo) : (worker.summary build progress now info).IsOf worker.id :=
  ⟨rfl, rfl, rfl⟩

/-- What a step adds to the lines of a worker is a line of its own. -/
theorem emitted_of_step {event : WorkerEvent}
    (step : worker.step build channel event = some next) :
    ∀ stats ∈ next.emitted, stats ∈ worker.emitted ∨ stats.IsOf worker.id := by
  have same : next.emitted = worker.emitted →
      ∀ stats ∈ next.emitted, stats ∈ worker.emitted ∨ stats.IsOf worker.id := by
    intro kept stats statsMem
    rw [kept] at statsMem
    exact .inl statsMem
  have adds : ∀ line, next.handingOut = [line] → next.reports = worker.reports →
      line.IsOf worker.id →
      ∀ stats ∈ next.emitted, stats ∈ worker.emitted ∨ stats.IsOf worker.id := by
    intro line handing kept own stats statsMem
    rw [emitted, handing, kept] at statsMem
    rcases List.mem_append.mp statsMem with before | last
    · exact .inl (List.mem_append_left _ before)
    · rw [List.mem_singleton.mp last]
      exact .inr own
  cases entry_of_step step with
  | fail _ error result kept =>
      intro stats statsMem
      simp only [emitted, handingOut, result, List.append_nil, kept] at statsMem
      exact .inl (List.mem_append_left _ statsMem)
  | start startTime intervalStart stage result kept =>
      exact same (by simp only [emitted, handingOut, kept, stage, result])
  | enter now progress stage continues result kept =>
      exact same (by simp only [emitted, handingOut, kept, stage, result])
  | stop now progress stage result kept =>
      exact same (by simp only [emitted, handingOut, kept, stage, result])
  | gone now info progress stage result kept =>
      exact same (by simp only [emitted, handingOut, kept, stage, result])
  | carry outcome now info progress stage goesOn early result kept =>
      exact same (by simp only [emitted, handingOut, kept, stage, result])
  | report progress now stats stage result sent =>
      exact same (by simp only [emitted, handingOut, sent, stage, result, List.append_nil])
  | finish progress stats stage result sent =>
      exact same (by simp only [emitted, handingOut, sent, stage, result, List.append_nil])
  | due outcome now info progress lastCwnd stats stage goesOn late covers result kept =>
      rw [step_of_goesOn stage goesOn, afterTransfer] at step
      simp only [Progress.add, late, if_true, Option.some.injEq] at step
      let moved := (WorkerEvent.transfer outcome now info).counts.sum
      apply adds (worker.currentStats build progress.index
        (now - progress.currentIntervalStart) (progress.bytesTransferred + moved) info) _ kept
      · exact isOf_currentStats build worker _ _ _ _
      · rw [← step]
        rfl
  | close now info progress stats stage covers result kept =>
      simp only [StreamWorker.step, stage, Option.some.injEq] at step
      apply adds (worker.currentStats build progress.index
        (now - progress.currentIntervalStart) progress.bytesTransferred info) _ kept
      · exact isOf_currentStats build worker _ _ _ _
      · rw [← step]
        rfl
  | summarize now info progress stats stage duration bytes result kept =>
      simp only [StreamWorker.step, stage, Option.some.injEq] at step
      apply adds (worker.summary build progress now info) _ kept
      · exact isOf_summary build worker progress now info
      · rw [← step]
        rfl

theorem Labelled.step {event : WorkerEvent} (labelled : worker.Labelled)
    (step : worker.step build channel event = some next) : next.Labelled := by
  intro stats statsMem
  rw [(move_of_step step).2.id]
  rcases emitted_of_step step stats statsMem with before | own
  · exact labelled stats before
  · exact own

end StreamWorker

end Iperf
