import Iperf.StreamWorker.Ledger

/-!
# What a worker emits

A worker emits its interval reports, the last report and the summary, each built
from a kernel sample of its own.  `Emission` lists what a step adds to them.
-/

namespace Iperf

namespace StreamWorker

/-- What a worker is sending or has returned. -/
def handingOut (worker : StreamWorker) : List StreamStats :=
  match worker.pc with
  | .reporting _ _ stats => [stats]
  | .closing _ stats => [stats]
  | .returned (.ok summary) => [summary]
  | _ => []

/-- Every report a worker has sent, is sending or has returned. -/
def emitted (worker : StreamWorker) : List StreamStats :=
  worker.reports ++ worker.handingOut

end StreamWorker

namespace DataStream

/-- The samples that a step takes: one for a report or the summary. -/
def samples (stream : DataStream) : StreamEvent → List (Option TcpInfo)
  | .work (.transfer outcome now info) =>
      match stream.worker.pc with
      | .transferring progress =>
          if outcome.goesOn ∧
              stream.worker.params.interval * nanosPerSec ≤
                now - progress.currentIntervalStart then
            [info]
          else
            []
      | _ => []
  | .work (.leave _ info) => [info]
  | .work (.summarize _ info) => [info]
  | _ => []

@[simp]
theorem samples_publish (stream : DataStream) (signal : WorkerMessage) :
    stream.samples (.publish signal) = [] :=
  rfl

@[simp]
theorem samples_close (stream : DataStream) : stream.samples .close = [] :=
  rfl

/-- What a step adds to all that the worker emits. -/
inductive Emission (build : Build) (stream next : DataStream) : WorkerEvent → Prop where
  | fail (event : WorkerEvent) (error : Error)
      (result : next.worker.pc = .returned (.error error))
      (kept : next.worker.emitted = stream.worker.reports) : Emission build stream next event
  | silent (event : WorkerEvent) (none : stream.samples (.work event) = [])
      (kept : next.worker.emitted = stream.worker.emitted) : Emission build stream next event
  /-- The report of an interval that is over. -/
  | due (outcome : Transfer) (now : Nat) (info : Option TcpInfo) (progress : Progress)
      (stage : stream.worker.pc = .transferring progress) (goesOn : outcome.goesOn)
      (late : stream.worker.params.interval * nanosPerSec ≤
        now - progress.currentIntervalStart)
      (bytesTransferred : Nat)
      (added : next.worker.emitted = stream.worker.emitted ++
        [stream.worker.currentStats build progress.index (now - progress.currentIntervalStart)
          bytesTransferred info]) :
      Emission build stream next (.transfer outcome now info)
  /-- The last report. -/
  | close (now : Nat) (info : Option TcpInfo) (progress : Progress)
      (stage : stream.worker.pc = .leaving progress)
      (added : next.worker.emitted = stream.worker.emitted ++
        [stream.worker.currentStats build progress.index (now - progress.currentIntervalStart)
          progress.bytesTransferred info]) :
      Emission build stream next (.leave now info)
  | summarize (now : Nat) (info : Option TcpInfo) (progress : Progress)
      (stage : stream.worker.pc = .summarizing progress)
      (result : next.worker.pc =
        .returned (.ok (stream.worker.summary build progress now info)))
      (added : next.worker.emitted = stream.worker.emitted ++
        [stream.worker.summary build progress now info]) :
      Emission build stream next (.summarize now info)

variable {build : Build} {stream next : DataStream}

theorem Works.emission {event : WorkerEvent} (works : Works build stream next event) :
    Emission build stream next event := by
  have moves := works.moves
  cases works.entry with
  | fail _ error result kept =>
      apply Emission.fail event error result
      simp only [StreamWorker.emitted, StreamWorker.handingOut, kept, result, List.append_nil]
  | start startTime intervalStart stage result kept =>
      apply Emission.silent _ rfl
      simp only [StreamWorker.emitted, StreamWorker.handingOut, kept, stage, result]
  | enter now progress stage continues result kept =>
      apply Emission.silent _ rfl
      simp only [StreamWorker.emitted, StreamWorker.handingOut, kept, stage, result]
  | stop now progress stage result kept =>
      apply Emission.silent _ rfl
      simp only [StreamWorker.emitted, StreamWorker.handingOut, kept, stage, result]
  | gone now info progress stage result kept =>
      apply Emission.silent
      · simp only [samples, stage, Transfer.goesOn, Bool.false_eq_true, false_and, if_false]
      · simp only [StreamWorker.emitted, StreamWorker.handingOut, kept, stage, result]
  | carry outcome now info progress stage goesOn early result kept =>
      apply Emission.silent
      · simp only [samples, stage, not_le.mpr early, and_false, if_false]
      · simp only [StreamWorker.emitted, StreamWorker.handingOut, kept, stage, result]
  | report progress now report stage result sent =>
      apply Emission.silent _ rfl
      simp only [StreamWorker.emitted, StreamWorker.handingOut, sent, stage, result,
        List.append_nil]
  | finish progress report stage result sent =>
      apply Emission.silent _ rfl
      simp only [StreamWorker.emitted, StreamWorker.handingOut, sent, stage, result,
        List.append_nil]
  | due outcome now info progress lastCwnd report stage goesOn late covers result kept =>
      rw [StreamWorker.step_of_goesOn stage goesOn, StreamWorker.afterTransfer] at moves
      simp only [Progress.add, late, if_true, Option.some.injEq] at moves
      apply Emission.due outcome now info progress stage goesOn late
      rw [← moves]
      simp only [StreamWorker.emitted, StreamWorker.handingOut, stage, List.append_nil]
      rfl
  | close now info progress report stage covers result kept =>
      simp only [StreamWorker.step, stage, Option.some.injEq] at moves
      apply Emission.close now info progress stage
      rw [← moves]
      simp only [StreamWorker.emitted, StreamWorker.handingOut, stage, List.append_nil]
  | summarize now info progress summary stage duration bytes result kept =>
      simp only [StreamWorker.step, stage, Option.some.injEq] at moves
      apply Emission.summarize now info progress stage
      · rw [← moves]
      · rw [← moves]
        simp only [StreamWorker.emitted, StreamWorker.handingOut, stage, List.append_nil]

end DataStream

end Iperf
