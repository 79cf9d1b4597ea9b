import Iperf.Opts
import Iperf.StreamWorker.Emission

/-!
# Retransmits in reports and summaries

On Linux a worker takes a sample of the kernel's counters for each report it builds
and one more for the summary.  Nothing is added up: the summary shows the back-off
counter of the last sample, as the reports show those of the samples before.
-/

namespace Iperf

open Channel Transition

/-- What is shown of a sample.  Without a sample it is zero. -/
def retransmitsOf (info : Option TcpInfo) : Nat :=
  (info.getD .default).tcpiRetransmits

/-- The kernel's count of all retransmits never goes back from one sample to the
next. -/
def TotalsRise (samples : List (Option TcpInfo)) : Prop :=
  (samples.reduceOption.map (·.tcpiTotalRetrans)).Pairwise (· ≤ ·)

/-- The back-off counter is nowhere higher than in the last sample. -/
def LastIsHighest (samples : List (Option TcpInfo)) : Prop :=
  ∀ final ∈ samples.getLast?, ∀ sample ∈ samples, retransmitsOf sample ≤ retransmitsOf final

/-- The retransmits of the summary are at least those of each report. -/
def StreamStats.AccountsFor (summary : StreamStats) (reports : List StreamStats) : Prop :=
  ∀ report ∈ reports, ∃ shown total, report.retransmits = some shown ∧
    summary.retransmits = some total ∧ shown ≤ total

/-- A summary that shows the last sample, as the reports show the others, accounts
for the reports if and only if the last sample is the highest. -/
theorem accountsFor_iff {reports : List StreamStats} {summary : StreamStats}
    {samples : List (Option TcpInfo)}
    (shows : (reports ++ [summary]).map (·.retransmits) =
      samples.map fun sample => some (retransmitsOf sample)) :
    summary.AccountsFor reports ↔ LastIsHighest samples := by
  rw [List.map_append, List.append_eq_map_iff] at shows
  rcases shows with ⟨earlier, later, rfl, same, lastSame⟩
  rcases List.map_eq_singleton_iff.mp lastSame with ⟨final, rfl, shown⟩
  have total : summary.retransmits = some (retransmitsOf final) := shown.symm
  calc
    summary.AccountsFor reports ↔
        ∀ showing ∈ reports.map (·.retransmits), ∃ shown total, showing = some shown ∧
          summary.retransmits = some total ∧ shown ≤ total := by
      rw [List.forall_mem_map]
      rfl
    _ ↔ ∀ sample ∈ earlier, retransmitsOf sample ≤ retransmitsOf final := by
      rw [← same, List.forall_mem_map, total]
      simp only [Option.some.injEq, exists_and_left, exists_eq_left']
    _ ↔ LastIsHighest (earlier ++ [final]) := by
      simp only [LastIsHighest, List.getLast?_append, List.getLast?_singleton, Option.some_or,
        Option.mem_some_iff, forall_eq', List.forall_mem_append, List.forall_mem_singleton,
        le_refl, and_true]

namespace DataStream

/-- The samples taken along a run. -/
def samplesOf (build : Build) (source : DataStream) (events : List StreamEvent) :
    List (Option TcpInfo) :=
  noted (DataStream.step build) (fun taken stream event => taken ++ stream.samples event) []
    source events

/-- Unless the worker has failed, what it has emitted shows the samples it has
taken. -/
def Shows (samples : List (Option TcpInfo)) (stream : DataStream) : Prop :=
  (∀ error, stream.worker.pc ≠ .returned (.error error)) →
    stream.worker.emitted.map (·.retransmits) =
      samples.map fun sample => some (retransmitsOf sample)

variable {build : Build} {stream next : DataStream}

/-- A worker that has failed takes no step. -/
theorem Works.going {event : WorkerEvent} (works : Works build stream next event)
    (error : Error) : stream.worker.pc ≠ .returned (.error error) := by
  intro failed
  have moves := works.moves
  rw [StreamWorker.step_of_returned failed] at moves
  cases moves

theorem Works.shows {event : WorkerEvent} {taken : List (Option TcpInfo)}
    (works : Works build stream next event) (linux : build.linux)
    (shows : stream.Shows taken) : next.Shows (taken ++ stream.samples (.work event)) := by
  intro going
  have before := shows works.going
  rw [List.map_append, ← before]
  cases works.emission with
  | fail _ error result kept => exact absurd result (going error)
  | silent _ none kept => rw [kept, none, List.map_nil, List.append_nil]
  | due outcome now info progress stage goesOn late bytesTransferred added =>
      rw [added, List.map_append]
      simp only [samples, stage, goesOn, late, and_self, if_true, StreamWorker.currentStats,
        linux, List.map_cons, List.map_nil, retransmitsOf]
  | close now info progress stage added =>
      rw [added, List.map_append]
      simp only [samples, StreamWorker.currentStats, linux, if_true, List.map_cons,
        List.map_nil, retransmitsOf]
  | summarize now info progress stage result added =>
      rw [added, List.map_append]
      simp only [samples, StreamWorker.summary, linux, if_true, List.map_cons,
        List.map_nil, retransmitsOf]

theorem shows_of_step {event : StreamEvent} {taken : List (Option TcpInfo)}
    (linux : build.linux) (shows : stream.Shows taken)
    (step : stream.step build event = some next) :
    next.Shows (taken ++ stream.samples event) := by
  cases event with
  | publish signal =>
      cases step
      rw [samples_publish, List.append_nil]
      exact shows
  | close =>
      cases step
      rw [samples_close, List.append_nil]
      exact shows
  | work event => exact (works_of_step step).shows linux shows

/-- The summary of a run accounts for the reports before it if and only if no sample
shows more than the one the summary is built from, which is the last. -/
theorem summary_accountsFor_iff (linux : build.linux) {id : Nat} {params : Parameters}
    {isSending : Bool} {channel : Publisher} {clock : Nat} {events : List StreamEvent}
    {last : DataStream} {summary : StreamStats}
    (finished : run (DataStream.step build) (.new id params isSending channel clock) events =
      some last)
    (returned : last.worker.pc = .returned (.ok summary)) :
    summary.AccountsFor last.worker.reports ↔
      LastIsHighest (samplesOf build (.new id params isSending channel clock) events) := by
  have shows : last.Shows
      (samplesOf build (.new id params isSending channel clock) events) := by
    apply run_invariant_noted Shows _ _ (guarded_true _ _ _) finished
    · intro taken source event target shows _ step
      exact shows_of_step linux shows step
    · intro _
      rfl
  apply accountsFor_iff
  rw [← shows]
  · simp only [StreamWorker.emitted, StreamWorker.handingOut, returned]
  · intro error failed
    rw [returned] at failed
    cases failed

/-- An interval is reported while the connection backs off, and the stream is closed
at `final`. -/
def backsOff (final : TcpInfo) : List StreamEvent :=
  [.publish .startLoad, .work (.signal 0 0), .work (.head 0),
    .work (.transfer (.moved 5) 1500000000 (some ⟨3, 1448, 10, 3⟩)), .work (.sent true),
    .work (.head 1500000000), .work (.transfer (.moved 0) 1700000000 none),
    .work (.leave 1900000000 (some final)), .work (.sent true),
    .work (.summarize 1900000000 (some final))]

/-- The back-off is over when the summary is built. -/
theorem summary_forgets_retransmits :
    ∃ stream summary,
      run (DataStream.step ⟨true, true⟩) (.new 0 (.fromOpts {}) true .new 0)
          (backsOff ⟨0, 1448, 10, 3⟩) = some stream ∧
        TotalsRise (samplesOf ⟨true, true⟩ (.new 0 (.fromOpts {}) true .new 0)
          (backsOff ⟨0, 1448, 10, 3⟩)) ∧
        stream.worker.pc = .returned (.ok summary) ∧
        stream.worker.reports.map (·.retransmits) = [some 3, some 0] ∧
        summary.retransmits = some 0 ∧ ¬ summary.AccountsFor stream.worker.reports := by
  have ends : (run (DataStream.step ⟨true, true⟩) (.new 0 (.fromOpts {}) true .new 0)
      (backsOff ⟨0, 1448, 10, 3⟩)).isSome = true := rfl
  let stream := (run (DataStream.step ⟨true, true⟩) (.new 0 (.fromOpts {}) true .new 0)
    (backsOff ⟨0, 1448, 10, 3⟩)).get ends
  let summary := stream.worker.summary ⟨true, true⟩ ⟨0, 1, 0, 5, some 14480, 1500000000⟩
    1900000000 (some ⟨0, 1448, 10, 3⟩)
  have rise : TotalsRise (samplesOf ⟨true, true⟩ (.new 0 (.fromOpts {}) true .new 0)
      (backsOff ⟨0, 1448, 10, 3⟩)) := by
    unfold TotalsRise
    decide +kernel
  have shown : stream.worker.reports.map (·.retransmits) = [some 3, some 0] := rfl
  have forgets : ¬ summary.AccountsFor stream.worker.reports := by
    intro accounts
    have first : some 3 ∈ stream.worker.reports.map (·.retransmits) := by
      rw [shown]
      exact List.mem_cons_self ..
    rcases List.mem_map.mp first with ⟨report, member, three⟩
    rcases accounts report member with ⟨count, total, same, none, le⟩
    rw [three] at same
    cases same
    cases none
    exact absurd le (by decide)
  exact ⟨stream, summary, (Option.some_get ends).symm, rise, rfl, shown, rfl, forgets⟩

/-- The back-off goes on until the summary is built. -/
theorem summary_accountsFor_iff_backsOff :
    ∃ stream summary,
      run (DataStream.step ⟨true, true⟩) (.new 0 (.fromOpts {}) true .new 0)
          (backsOff ⟨4, 1448, 10, 4⟩) = some stream ∧
        stream.worker.pc = .returned (.ok summary) ∧
        (summary.AccountsFor stream.worker.reports ↔
          LastIsHighest (samplesOf ⟨true, true⟩ (.new 0 (.fromOpts {}) true .new 0)
            (backsOff ⟨4, 1448, 10, 4⟩))) := by
  have ends : (run (DataStream.step ⟨true, true⟩) (.new 0 (.fromOpts {}) true .new 0)
      (backsOff ⟨4, 1448, 10, 4⟩)).isSome = true := rfl
  let stream := (run (DataStream.step ⟨true, true⟩) (.new 0 (.fromOpts {}) true .new 0)
    (backsOff ⟨4, 1448, 10, 4⟩)).get ends
  let summary := stream.worker.summary ⟨true, true⟩ ⟨0, 1, 0, 5, some 14480, 1500000000⟩
    1900000000 (some ⟨4, 1448, 10, 4⟩)
  have finished := (Option.some_get ends).symm
  have returned : stream.worker.pc = .returned (.ok summary) := rfl
  exact ⟨stream, summary, finished, returned, summary_accountsFor_iff rfl finished returned⟩

end DataStream

end Iperf
