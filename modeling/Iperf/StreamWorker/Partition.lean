import Iperf.Opts
import Iperf.StreamWorker.Ledger
import Mathlib.Data.Nat.ModEq

/-!
# The reports of a stream partition its run

Each interval report covers the time since the one before it and the bytes
moved in that time, and the last report covers what is left.  Truncation to
milliseconds only loses time, so that the reports never cover more than the
summary.
-/

namespace Iperf

open Channel Transition

theorem asMillis_mono {shorter longer : Nat} (le : shorter ≤ longer) :
    asMillis shorter ≤ asMillis longer :=
  Nat.div_le_div_right le

/-- Parts that are truncated one by one do not exceed the truncated whole. -/
theorem asMillis_add_le (first second : Nat) :
    asMillis first + asMillis second ≤ asMillis (first + second) :=
  Nat.div_add_div_le_add_div

/-- Whole seconds are not truncated. -/
theorem le_asMillis {seconds nanos : Nat} (le : seconds * nanosPerSec ≤ nanos) :
    seconds * 1000 ≤ asMillis nanos := by
  apply (Nat.le_div_iff_mul_le (by decide : 0 < 1000000)).mpr
  calc
    seconds * 1000 * 1000000 = seconds * nanosPerSec := Nat.mul_assoc _ _ _
    _ ≤ nanos := le

/-- The reports account for `bytes` bytes and at most `duration` milliseconds. -/
structure Partition (interval : Nat) (reports : List StreamStats) (bytes duration : Nat) :
    Prop where
  numbered : ∃ last, reports.map (·.index) = (List.range (last + 1)).map some
  bytes : (reports.map (·.bytesTransferred)).sum = bytes
  covers : ∀ report ∈ reports.dropLast, interval * 1000 ≤ report.duration
  durations : (reports.map (·.duration)).sum ≤ duration

namespace StreamWorker

/-- The accounts inside the loop. -/
structure Books (worker : StreamWorker) (moved : List Nat) (clock : Nat)
    (progress : Progress) : Prop where
  numbered : worker.reports.map (·.index) = (List.range progress.index).map some
  bytes : (worker.reports.map (·.bytesTransferred)).sum + progress.bytesTransferred =
    progress.totalBytesTransferred
  moved : progress.totalBytesTransferred = moved.sum
  covers : ∀ report ∈ worker.reports, worker.params.interval * 1000 ≤ report.duration
  durations : (worker.reports.map (·.duration)).sum ≤
    asMillis (progress.currentIntervalStart - progress.startTime)
  started : progress.startTime ≤ progress.currentIntervalStart
  clock : progress.currentIntervalStart ≤ clock

/-- What the accounts say at each point of a run that has moved `moved` and last
read `clock`. -/
def Accounts (worker : StreamWorker) (moved : List Nat) (clock : Nat) : Prop :=
  match worker.pc with
  | .waiting => worker.reports = [] ∧ moved = []
  | .head progress | .transferring progress | .leaving progress =>
      worker.Books moved clock progress
  | .reporting progress now stats =>
      worker.Books moved clock progress ∧ stats.Covers progress now ∧
        progress.currentIntervalStart ≤ now ∧ now ≤ clock ∧
        worker.params.interval * nanosPerSec ≤ now - progress.currentIntervalStart
  | .closing progress stats =>
      worker.Books moved clock progress ∧ ∃ now, stats.Covers progress now ∧
        progress.currentIntervalStart ≤ now ∧ now ≤ clock
  | .summarizing progress =>
      progress.totalBytesTransferred = moved.sum ∧
        ∃ now, progress.startTime ≤ now ∧ now ≤ clock ∧
          Partition worker.params.interval worker.reports
            progress.totalBytesTransferred (asMillis (now - progress.startTime))
  | .returned (.ok summary) =>
      summary.bytesTransferred = moved.sum ∧
        Partition worker.params.interval worker.reports
          summary.bytesTransferred summary.duration
  | .returned (.error _) => True

variable {worker next : StreamWorker} {moved : List Nat} {clock reading : Nat}
  {progress : Progress} {stats : StreamStats} {now : Nat}

/-- The accounts of a load that begins. -/
theorem Books.begin {startTime intervalStart : Nat} (unreported : worker.reports = [])
    (order : startTime ≤ intervalStart) :
    worker.Books [] intervalStart (.begin startTime intervalStart) where
  numbered := by
    rw [unreported]
    rfl
  bytes := by
    rw [unreported]
    rfl
  moved := rfl
  covers := by
    rw [unreported]
    rintro report ⟨⟩
  durations := by
    rw [unreported]
    exact Nat.zero_le _
  started := order
  clock := Nat.le_refl intervalStart

/-- More bytes move and time passes. -/
theorem Books.add (books : worker.Books moved clock progress)
    (kept : next.reports = worker.reports) (params : next.params = worker.params)
    (passes : clock ≤ reading) (counts : List Nat) :
    next.Books (moved ++ counts) reading (progress.add counts.sum) where
  numbered := by
    rw [kept]
    exact books.numbered
  bytes := by
    rw [kept, Progress.add, ← Nat.add_assoc, books.bytes]
  moved := by
    rw [List.sum_append, ← books.moved]
    rfl
  covers := by
    rw [kept, params]
    exact books.covers
  durations := by
    rw [kept]
    exact books.durations
  started := books.started
  clock := Nat.le_trans books.clock passes

/-- Time passes. -/
theorem Books.later (books : worker.Books moved clock progress)
    (kept : next.reports = worker.reports) (params : next.params = worker.params)
    (passes : clock ≤ reading) : next.Books (moved ++ []) reading progress :=
  books.add kept params passes []

/-- A report adds its bytes and its time to those before it. -/
theorem Books.sums (books : worker.Books moved clock progress)
    (covers : stats.Covers progress now) (after : progress.currentIntervalStart ≤ now) :
    ((worker.reports ++ [stats]).map (·.index) =
        (List.range (progress.index + 1)).map some) ∧
      ((worker.reports ++ [stats]).map (·.bytesTransferred)).sum =
        progress.totalBytesTransferred ∧
      ((worker.reports ++ [stats]).map (·.duration)).sum ≤
        asMillis (now - progress.startTime) := by
  constructor
  · rw [List.map_append, books.numbered, List.range_succ, List.map_append]
    simp only [List.map_cons, List.map_nil, covers.index]
  constructor
  · rw [List.map_append, List.sum_append, ← books.bytes]
    simp only [List.map_cons, List.map_nil, List.sum_singleton, covers.bytesTransferred]
  · have whole : progress.currentIntervalStart - progress.startTime +
        (now - progress.currentIntervalStart) = now - progress.startTime := by
      rw [Nat.add_comm, Nat.sub_add_sub_cancel after books.started]
    calc
      ((worker.reports ++ [stats]).map (·.duration)).sum =
          (worker.reports.map (·.duration)).sum + stats.duration := by
        rw [List.map_append, List.sum_append, List.map_singleton, List.sum_singleton]
      _ ≤ asMillis (progress.currentIntervalStart - progress.startTime) +
          asMillis (now - progress.currentIntervalStart) := by
        rw [covers.duration]
        exact Nat.add_le_add_right books.durations _
      _ ≤ asMillis (now - progress.startTime) := by
        rw [← whole]
        exact asMillis_add_le _ _

/-- An interval report closes one interval and opens the next. -/
theorem Books.report (books : worker.Books moved clock progress)
    (covers : stats.Covers progress now) (after : progress.currentIntervalStart ≤ now)
    (past : now ≤ clock)
    (late : worker.params.interval * nanosPerSec ≤ now - progress.currentIntervalStart)
    (sent : next.reports = worker.reports ++ [stats])
    (params : next.params = worker.params) :
    next.Books moved clock { progress with
      currentIntervalStart := now
      bytesTransferred := 0
      index := progress.index + 1 } := by
  rcases books.sums covers after with ⟨numbered, bytes, durations⟩
  constructor
  · rw [sent]
    exact numbered
  · rw [sent]
    exact bytes
  · exact books.moved
  · rw [sent, params]
    intro report member
    rcases List.mem_append.mp member with before | last
    · exact books.covers report before
    · rw [List.mem_singleton.mp last, covers.duration]
      exact le_asMillis late
  · rw [sent]
    exact durations
  · exact Nat.le_trans books.started after
  · exact past

/-- The last report closes the run. -/
theorem Books.finish (books : worker.Books moved clock progress)
    (covers : stats.Covers progress now) (after : progress.currentIntervalStart ≤ now) :
    Partition worker.params.interval (worker.reports ++ [stats])
      progress.totalBytesTransferred (asMillis (now - progress.startTime)) := by
  rcases books.sums covers after with ⟨numbered, bytes, durations⟩
  constructor
  · exact ⟨progress.index, numbered⟩
  · exact bytes
  · rw [List.dropLast_concat]
    exact books.covers
  · exact durations

end StreamWorker

namespace DataStream

variable {build : Build} {stream next : DataStream}

/-- A step of the worker keeps the accounts. -/
theorem Works.accounts {event : WorkerEvent} (works : Works build stream next event)
    (accounts : stream.worker.Accounts stream.moved stream.clock) :
    next.worker.Accounts next.moved next.clock := by
  have params := works.params
  have passes := works.clock_le
  have moved := works.moved
  have clock := works.clock
  rw [moved]
  cases works.entry with
  | start startTime intervalStart stage result kept =>
      simp only [StreamWorker.Accounts, stage] at accounts
      simp only [StreamWorker.Accounts, result, clock]
      rcases accounts with ⟨none, still⟩
      have order : startTime ≤ intervalStart := by
        have ordered := works.allowed.1
        simp only [WorkerEvent.readings, List.pairwise_cons] at ordered
        exact ordered.2.1 intervalStart (List.mem_singleton_self intervalStart)
      rw [still]
      exact StreamWorker.Books.begin (kept.trans none) order
  | fail _ error result kept => simp only [StreamWorker.Accounts, result]
  | enter now progress stage continues result kept =>
      simp only [StreamWorker.Accounts, stage] at accounts
      simp only [StreamWorker.Accounts, result]
      exact accounts.later kept params passes
  | stop now progress stage result kept =>
      simp only [StreamWorker.Accounts, stage] at accounts
      simp only [StreamWorker.Accounts, result]
      exact accounts.later kept params passes
  | gone now info progress stage result kept =>
      simp only [StreamWorker.Accounts, stage] at accounts
      simp only [StreamWorker.Accounts, result]
      exact accounts.add kept params passes [0]
  | carry outcome now info progress stage goesOn early result kept =>
      simp only [StreamWorker.Accounts, stage] at accounts
      simp only [StreamWorker.Accounts, result]
      exact accounts.add kept params passes _
  | due outcome now info progress lastCwnd stats stage goesOn late covers result kept =>
      simp only [StreamWorker.Accounts, stage] at accounts
      simp only [StreamWorker.Accounts, result]
      have past : progress.currentIntervalStart ≤ now := by
        apply Nat.le_trans accounts.clock
        exact works.le_reading (List.mem_singleton_self now)
      have books := accounts.add kept params passes
        (WorkerEvent.transfer outcome now info).counts
      refine ⟨⟨books.1, books.2, books.3, books.4, books.5, books.6, books.7⟩,
        ⟨covers.1, covers.2, covers.3⟩, past, ?_, ?_⟩
      · rw [clock]
        exact Nat.le_refl now
      · rw [params]
        exact late
  | report progress now stats stage result sent =>
      simp only [StreamWorker.Accounts, stage] at accounts
      simp only [StreamWorker.Accounts, result, clock]
      rcases accounts with ⟨books, covers, after, past, late⟩
      rw [WorkerEvent.counts_sent, List.append_nil]
      exact books.report covers after past late sent params
  | close now info progress stats stage covers result kept =>
      simp only [StreamWorker.Accounts, stage] at accounts
      simp only [StreamWorker.Accounts, result]
      have past : progress.currentIntervalStart ≤ now := by
        apply Nat.le_trans accounts.clock
        exact works.le_reading (List.mem_singleton_self now)
      refine ⟨accounts.later kept params passes, now, covers, past, ?_⟩
      rw [clock]
      exact Nat.le_refl now
  | finish progress stats stage result sent =>
      simp only [StreamWorker.Accounts, stage] at accounts
      simp only [StreamWorker.Accounts, result, params, sent]
      rcases accounts with ⟨books, now, covers, after, past⟩
      rw [WorkerEvent.counts_sent, List.append_nil]
      refine ⟨books.moved, now, Nat.le_trans books.started after, ?_, books.finish covers after⟩
      rw [clock]
      exact past
  | summarize now info progress stats stage duration bytes result kept =>
      simp only [StreamWorker.Accounts, stage] at accounts
      simp only [StreamWorker.Accounts, result, params, kept, bytes, duration]
      rcases accounts with ⟨total, instant, -, past, partition⟩
      rw [WorkerEvent.counts_summarize, List.append_nil]
      have order : instant ≤ now := by
        apply Nat.le_trans past
        exact works.le_reading (List.mem_singleton_self now)
      exact ⟨total, partition.numbered, partition.bytes, partition.covers,
        Nat.le_trans partition.durations
          (asMillis_mono (Nat.sub_le_sub_right order progress.startTime))⟩

theorem accounts_step {event : StreamEvent}
    (accounts : stream.worker.Accounts stream.moved stream.clock)
    (step : stream.step build event = some next) :
    next.worker.Accounts next.moved next.clock := by
  cases event with
  | publish signal =>
      cases step
      exact accounts
  | close =>
      cases step
      exact accounts
  | work event => exact (works_of_step step).accounts accounts

end DataStream

/-- The reports of a stream that returns are numbered without a gap, their bytes
add up to those of the summary and to what the socket has moved, all but the
last cover an interval, and together they last no longer than the summary says. -/
theorem DataStream.reports_partition {build : Build} {id : Nat} {params : Parameters}
    {isSending : Bool} {channel : Publisher} {clock : Nat} {stream : DataStream}
    {summary : StreamStats}
    (reachable : Reachable (DataStream.step build)
      (.new id params isSending channel clock) stream)
    (returned : stream.worker.pc = .returned (.ok summary)) :
    summary.bytesTransferred = stream.moved.sum ∧
      Partition params.interval stream.worker.reports summary.bytesTransferred
        summary.duration := by
  have accounts := reachable.invariant
    (fun stream => stream.worker.Accounts stream.moved stream.clock)
    (fun _ _ _ accounts step => accounts_step accounts step) ⟨rfl, rfl⟩
  have same := params_of_reachable reachable
  simp only [StreamWorker.Accounts, returned] at accounts
  rw [same] at accounts
  exact accounts

/-- One interval report, and a last one when the peer closes the stream. -/
def DataStream.closedByPeer : List StreamEvent :=
  [.publish .startLoad, .work (.signal 0 0), .work (.head 0),
    .work (.transfer (.moved 5) 1500000000 none), .work (.sent true),
    .work (.head 1500000000), .work (.transfer (.moved 7) 1600000000 none),
    .work (.head 1600000000), .work (.transfer (.moved 0) 1700000000 none),
    .work (.leave 1900000000 none), .work (.sent true), .work (.summarize 1900000000 none)]

theorem DataStream.reports_partition_two :
    ∃ stream summary,
      Reachable (DataStream.step ⟨true, true⟩) (.new 0 (.fromOpts {}) true .new 0) stream ∧
        stream.worker.pc = .returned (.ok summary) ∧
        stream.worker.reports.map (·.bytesTransferred) = [5, 7] ∧
        summary.bytesTransferred = stream.moved.sum ∧
        Partition 1 stream.worker.reports summary.bytesTransferred summary.duration := by
  let reached := run (DataStream.step ⟨true, true⟩) (.new 0 (.fromOpts {}) true .new 0)
    closedByPeer
  have ends : reached.isSome = true := rfl
  let stream := reached.get ends
  have reachable : Reachable (DataStream.step ⟨true, true⟩)
      (.new 0 (.fromOpts {}) true .new 0) stream := ⟨closedByPeer, (Option.some_get ends).symm⟩
  have returned : stream.worker.pc = .returned (.ok (stream.worker.summary ⟨true, true⟩
      ⟨0, 1, 7, 12, some 0, 1500000000⟩ 1900000000 none)) := rfl
  have bytes : stream.worker.reports.map (·.bytesTransferred) = [5, 7] := rfl
  exact ⟨stream, _, reachable, returned, bytes, reports_partition reachable returned⟩

end Iperf
