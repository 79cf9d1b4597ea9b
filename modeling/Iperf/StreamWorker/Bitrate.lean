import Iperf.StreamWorker.Emission
import Iperf.StreamWorker.Partition
import Iperf.Ui

/-!
# Reports that can be printed

A report is printed with a defined bitrate if it lasts a millisecond.  Interval
reports do unless the interval is zero; the last report lasts as long as the
loop went on after the interval report before it, which may be no time at all.
-/

namespace Iperf

open Channel Transition

/-- Nanoseconds in a millisecond. -/
def nanosPerMilli : Nat := 1000000

theorem one_le_asMillis_iff {nanos : Nat} : 1 ≤ asMillis nanos ↔ nanosPerMilli ≤ nanos := by
  rw [asMillis, Nat.le_div_iff_mul_le (by decide), Nat.one_mul, nanosPerMilli]

/-- A report that is printed with a defined bitrate. -/
structure StreamStats.Printable (stats : StreamStats) : Prop where
  lasts : 1 ≤ stats.duration
  bitrate : (printStats stats).rate.IsDefined

theorem StreamStats.printable_iff (stats : StreamStats) :
    stats.Printable ↔ 1 ≤ stats.duration := by
  constructor
  · intro printable
    exact printable.lasts
  · intro lasts
    exact ⟨lasts, (humanizeBitrate_isDefined_iff _ _).mpr lasts⟩

namespace DataStream

/-- Every report of a stream so far is printed with a defined bitrate. -/
def AllPrintable (stream : DataStream) : Prop :=
  ∀ stats ∈ stream.worker.emitted, stats.Printable

/-- An interval that is over, and the time since the last interval report when the
loop is left, last a millisecond. -/
def Lasts (stream : DataStream) : StreamEvent → Prop
  | .work (.transfer outcome now _) => outcome.goesOn →
      ∀ progress, stream.worker.pc = .transferring progress →
        stream.worker.params.interval * nanosPerSec ≤ now - progress.currentIntervalStart →
          nanosPerMilli ≤ now - progress.currentIntervalStart
  | .work (.leave now _) => ∀ progress, stream.worker.pc = .leaving progress →
      nanosPerMilli ≤ now - progress.currentIntervalStart
  | _ => True

variable {build : Build} {stream next : DataStream}

/-- A report of a millisecond can be printed. -/
theorem currentStats_printable_iff (worker : StreamWorker) (index bytes nanos : Nat)
    (info : Option TcpInfo) :
    (worker.currentStats build index nanos bytes info).Printable ↔ nanosPerMilli ≤ nanos := by
  rw [StreamStats.printable_iff, StreamWorker.currentStats, one_le_asMillis_iff]

/-- A summary lasts at least as long as the reports before it. -/
theorem printable_of_partition {interval bytes duration : Nat} {reports : List StreamStats}
    (partition : Partition interval reports bytes duration)
    (printable : ∀ stats ∈ reports, stats.Printable) : 1 ≤ duration := by
  rcases partition.numbered with ⟨last, numbered⟩
  have length := congrArg List.length numbered
  simp only [List.length_map, List.length_range] at length
  cases reports with
  | nil => cases length
  | cons first rest =>
      calc
        1 ≤ first.duration := (printable first (List.mem_cons_self ..)).lasts
        _ ≤ ((first :: rest).map (·.duration)).sum := by
          rw [List.map_cons, List.sum_cons]
          exact Nat.le_add_right _ _
        _ ≤ duration := partition.durations

/-- A step of the worker hands out printable reports if it lasts. -/
theorem Works.allPrintable {event : WorkerEvent} (works : Works build stream next event)
    (accounts : stream.worker.Accounts stream.moved stream.clock)
    (printable : stream.AllPrintable) (lasts : stream.Lasts (.work event)) :
    next.AllPrintable := by
  cases works.emission with
  | fail _ error result kept =>
      intro stats member
      rw [kept] at member
      exact printable stats (List.mem_append_left _ member)
  | silent _ none kept =>
      rw [AllPrintable, kept]
      exact printable
  | due outcome now info progress stage goesOn late bytesTransferred added =>
      rw [AllPrintable, added, List.forall_mem_append, List.forall_mem_singleton,
        currentStats_printable_iff]
      exact ⟨printable, lasts goesOn progress stage late⟩
  | close now info progress stage added =>
      rw [AllPrintable, added, List.forall_mem_append, List.forall_mem_singleton,
        currentStats_printable_iff]
      exact ⟨printable, lasts progress stage⟩
  | summarize now info progress stage result added =>
      have accountsNext := works.accounts accounts
      simp only [StreamWorker.Accounts, result] at accountsNext
      have reports : next.worker.reports = stream.worker.emitted := by
        simp only [StreamWorker.emitted, StreamWorker.handingOut, result] at added
        exact List.append_cancel_right added
      rw [AllPrintable, added, List.forall_mem_append, List.forall_mem_singleton,
        StreamStats.printable_iff]
      constructor
      · exact printable
      · apply printable_of_partition accountsNext.2
        rw [reports]
        exact printable

/-- A report that cannot be printed shows in the step that builds it. -/
theorem Works.lasts {event : WorkerEvent} (works : Works build stream next event)
    (printable : next.AllPrintable) : stream.Lasts (.work event) := by
  have handed : ∀ stats ∈ next.worker.handingOut, stats.Printable := by
    intro stats member
    exact printable stats (List.mem_append_right _ member)
  cases event with
  | transfer outcome now info =>
      intro goesOn progress stage late
      have moves := works.moves
      rw [StreamWorker.step_of_goesOn stage goesOn, StreamWorker.afterTransfer] at moves
      simp only [Progress.add, late, if_true, Option.some.injEq] at moves
      rw [← moves] at handed
      exact (currentStats_printable_iff ..).mp (handed _ (List.mem_singleton_self _))
  | leave now info =>
      intro progress stage
      have moves := works.moves
      simp only [StreamWorker.step, stage, Option.some.injEq] at moves
      rw [← moves] at handed
      exact (currentStats_printable_iff ..).mp (handed _ (List.mem_singleton_self _))
  | _ => trivial

/-- Every report of a run is printed with a defined bitrate if and only if each
interval that is reported and the time that is left for the last report last a
millisecond. -/
theorem all_printable_iff {id : Nat} {params : Parameters} {isSending : Bool}
    {channel : Publisher} {clock : Nat} {events : List StreamEvent} {last : DataStream}
    (finished : run (DataStream.step build) (.new id params isSending channel clock) events =
      some last) :
    (∀ before after state, events = before ++ after →
      run (DataStream.step build) (.new id params isSending channel clock) before =
        some state → state.AllPrintable) ↔
      Guarded (DataStream.step build) Lasts (.new id params isSending channel clock)
        events := by
  apply holds_iff_guarded
    (fun stream => stream.worker.Accounts stream.moved stream.clock) AllPrintable AllPrintable
    _ _ _ _ _ _ finished
  · intro source event target accounts step
    exact accounts_step accounts step
  · intro source event target accounts printable lasts step
    cases event with
    | publish signal =>
        cases step
        exact printable
    | close =>
        cases step
        exact printable
    | work event => exact (works_of_step step).allPrintable accounts printable lasts
  · intro state accounts printable
    exact printable
  · intro source event target accounts step printable
    cases event with
    | publish signal => trivial
    | close => trivial
    | work event => exact (works_of_step step).lasts printable
  · exact ⟨rfl, rfl⟩
  · rintro stats ⟨⟩

/-- A test that is over as soon as it starts. -/
def noTime : List StreamEvent :=
  [.publish .startLoad, .work (.signal 0 0), .work (.head 1), .work (.leave 2 none),
    .work (.sent true), .work (.summarize 3 none)]

/-- A test of no seconds reports no bytes in no time. -/
theorem undefined_bitrate :
    ∃ stream stats,
      Reachable (DataStream.step ⟨true, true⟩)
        (.new 0 (.fromOpts { time := 0 }) true .new 0) stream ∧
      stream.worker.reports = [stats] ∧ stats.duration = 0 ∧ (printStats stats).rate = .nan ∧
        ¬ stream.AllPrintable := by
  have ends : (run (DataStream.step ⟨true, true⟩)
    (.new 0 (.fromOpts { time := 0 }) true .new 0) noTime).isSome = true := rfl
  let stream := (run (DataStream.step ⟨true, true⟩)
    (.new 0 (.fromOpts { time := 0 }) true .new 0) noTime).get ends
  have reports : stream.worker.reports = [⟨0, some 0, 0, 0, some 0, some 0, true, false, false⟩] :=
    rfl
  refine ⟨stream, _, ⟨noTime, (Option.some_get ends).symm⟩, reports, rfl, rfl, ?_⟩
  intro printable
  have report := printable _ (List.mem_append_left _ (reports ▸ List.mem_singleton_self _))
  exact absurd report.lasts (by decide)

/-- The reports of a stream that its peer closes. -/
theorem all_printable_iff_closedByPeer :
    ∃ last, run (DataStream.step ⟨true, true⟩) (.new 0 (.fromOpts {}) true .new 0)
        closedByPeer = some last ∧
      ((∀ before after state, closedByPeer = before ++ after →
        run (DataStream.step ⟨true, true⟩) (.new 0 (.fromOpts {}) true .new 0) before =
          some state → state.AllPrintable) ↔
        Guarded (DataStream.step ⟨true, true⟩) Lasts (.new 0 (.fromOpts {}) true .new 0)
          closedByPeer) := by
  have ends : (run (DataStream.step ⟨true, true⟩) (.new 0 (.fromOpts {}) true .new 0)
      closedByPeer).isSome = true := rfl
  have finished := (Option.some_get ends).symm
  exact ⟨_, finished, all_printable_iff finished⟩

end DataStream

end Iperf
