import Iperf.StreamWorker.Step
import Iperf.Transition.Core
import Mathlib.Algebra.GroupWithZero.Nat

/-!
# A worker in its surroundings

A data stream is a worker together with what it depends on: the channel its
signals come from, a clock that never goes back, and a socket that moves at
most one buffer at a time.  `Entry` lists what a step does to the counters and
the reports; the accounts of a stream are kept from it.
-/

namespace Iperf

open Channel Transition

/-- The clock readings of a step, in order. -/
def WorkerEvent.readings : WorkerEvent → List Nat
  | .signal startTime intervalStart => [startTime, intervalStart]
  | .head now => [now]
  | .transfer _ now _ => [now]
  | .sent _ => []
  | .leave now _ => [now]
  | .summarize now _ => [now]

/-- What a successful read or write has moved. -/
def WorkerEvent.counts : WorkerEvent → List Nat
  | .transfer (.moved bytesCount) _ _ => [bytesCount]
  | _ => []

@[simp]
theorem WorkerEvent.counts_sent (delivered : Bool) : (sent delivered).counts = [] :=
  rfl

@[simp]
theorem WorkerEvent.counts_summarize (now : Nat) (info : Option TcpInfo) :
    (summarize now info).counts = [] :=
  rfl

/-- One transfer is bounded by its buffer. -/
theorem counts_sum_le {event : WorkerEvent} {blockSize : Nat}
    (bounded : ∀ count ∈ event.counts, count ≤ blockSize) : event.counts.sum ≤ blockSize := by
  cases event with
  | transfer outcome now info =>
      cases outcome with
      | moved bytesCount => exact bounded bytesCount (List.mem_singleton_self bytesCount)
      | _ => exact Nat.zero_le blockSize
  | _ => exact Nat.zero_le blockSize

structure DataStream where
  worker : StreamWorker
  channel : Publisher
  /-- The latest clock reading. -/
  clock : Nat
  /-- The counts of the successful reads or writes. -/
  moved : List Nat

inductive StreamEvent where
  | publish (signal : WorkerMessage)
  /-- The controller is gone. -/
  | close
  | work (event : WorkerEvent)

namespace DataStream

/-- A worker that has just subscribed. -/
def new (id : Nat) (params : Parameters) (isSending : Bool) (channel : Publisher)
    (clock : Nat) : DataStream :=
  { worker := .new id params isSending channel.subscribe, channel, clock, moved := [] }

/-- The clock does not go back and the buffer bounds what is moved. -/
def Allows (stream : DataStream) (event : WorkerEvent) : Prop :=
  (stream.clock :: event.readings).Pairwise (· ≤ ·) ∧
    ∀ count ∈ event.counts, count ≤ stream.worker.params.blockSize

instance (stream : DataStream) (event : WorkerEvent) : Decidable (stream.Allows event) :=
  inferInstanceAs (Decidable (_ ∧ _))

def step (build : Build) (stream : DataStream) : StreamEvent → Option DataStream
  | .publish signal => some { stream with channel := stream.channel.send signal }
  | .close => some { stream with channel := stream.channel.close }
  | .work event =>
      if stream.Allows event then
        (stream.worker.step build stream.channel event).map fun worker =>
          { stream with
            worker
            clock := event.readings.getLastD stream.clock
            moved := stream.moved ++ event.counts }
      else
        none

end DataStream

/-- Progress at the start of the load. -/
def Progress.begin (startTime intervalStart : Nat) : Progress where
  startTime
  index := 0
  bytesTransferred := 0
  totalBytesTransferred := 0
  lastCwnd := none
  currentIntervalStart := intervalStart

/-- `count` more bytes have been moved. -/
def Progress.add (progress : Progress) (count : Nat) : Progress :=
  { progress with
    bytesTransferred := progress.bytesTransferred + count
    totalBytesTransferred := progress.totalBytesTransferred + count }

/-- The loop goes on after the transfer. -/
def Transfer.goesOn : Transfer → Bool
  | .failed | .moved 0 => false
  | _ => true

/-- A report covers the interval that ends at `now`. -/
structure StreamStats.Covers (stats : StreamStats) (progress : Progress) (now : Nat) : Prop where
  index : stats.index = some progress.index
  duration : stats.duration = asMillis (now - progress.currentIntervalStart)
  bytesTransferred : stats.bytesTransferred = progress.bytesTransferred

namespace StreamWorker

theorem currentStats_covers (build : Build) (worker : StreamWorker) (progress : Progress)
    (now : Nat) (info : Option TcpInfo) :
    (worker.currentStats build progress.index (now - progress.currentIntervalStart)
      progress.bytesTransferred info).Covers progress now :=
  ⟨rfl, rfl, rfl⟩

/-- Nothing ends the loop at its head. -/
structure Continues (channel : Publisher) (worker : StreamWorker) (now : Nat)
    (progress : Progress) : Prop where
  onTime : ¬ worker.params.duration * nanosPerSec < now - progress.startTime
  below : ¬ worker.params.maxLength.any (· < progress.totalBytesTransferred)
  quiet : (worker.recv channel).1 = .pending ∨ (worker.recv channel).1 = .message .startLoad

/-- What a step does to the counters and the reports. -/
inductive Entry (channel : Publisher) (worker next : StreamWorker) : WorkerEvent → Prop where
  | start (startTime intervalStart : Nat) (stage : worker.pc = .waiting)
      (result : next.pc = .head (.begin startTime intervalStart))
      (kept : next.reports = worker.reports) :
      Entry channel worker next (.signal startTime intervalStart)
  | fail (event : WorkerEvent) (error : Error) (result : next.pc = .returned (.error error))
      (kept : next.reports = worker.reports) : Entry channel worker next event
  /-- The loop goes on to a read or write. -/
  | enter (now : Nat) (progress : Progress) (stage : worker.pc = .head progress)
      (continues : worker.Continues channel now progress)
      (result : next.pc = .transferring progress)
      (kept : next.reports = worker.reports) : Entry channel worker next (.head now)
  /-- The loop is left at its head. -/
  | stop (now : Nat) (progress : Progress) (stage : worker.pc = .head progress)
      (result : next.pc = .leaving progress)
      (kept : next.reports = worker.reports) : Entry channel worker next (.head now)
  /-- The loop is left because the peer has closed the stream. -/
  | gone (now : Nat) (info : Option TcpInfo) (progress : Progress)
      (stage : worker.pc = .transferring progress) (result : next.pc = .leaving progress)
      (kept : next.reports = worker.reports) :
      Entry channel worker next (.transfer (.moved 0) now info)
  /-- The interval is not over yet. -/
  | carry (outcome : Transfer) (now : Nat) (info : Option TcpInfo) (progress : Progress)
      (stage : worker.pc = .transferring progress) (goesOn : outcome.goesOn)
      (early : now - progress.currentIntervalStart < worker.params.interval * nanosPerSec)
      (result : next.pc =
        .head (progress.add (WorkerEvent.transfer outcome now info).counts.sum))
      (kept : next.reports = worker.reports) :
      Entry channel worker next (.transfer outcome now info)
  /-- The interval is over. -/
  | due (outcome : Transfer) (now : Nat) (info : Option TcpInfo) (progress : Progress)
      (lastCwnd : Option Nat) (stats : StreamStats)
      (stage : worker.pc = .transferring progress) (goesOn : outcome.goesOn)
      (late : worker.params.interval * nanosPerSec ≤ now - progress.currentIntervalStart)
      (covers : stats.Covers
        (progress.add (WorkerEvent.transfer outcome now info).counts.sum) now)
      (result : next.pc = .reporting
        { progress.add (WorkerEvent.transfer outcome now info).counts.sum with lastCwnd }
        now stats)
      (kept : next.reports = worker.reports) :
      Entry channel worker next (.transfer outcome now info)
  | report (progress : Progress) (now : Nat) (stats : StreamStats)
      (stage : worker.pc = .reporting progress now stats)
      (result : next.pc = .head { progress with
        currentIntervalStart := now
        bytesTransferred := 0
        index := progress.index + 1 })
      (sent : next.reports = worker.reports ++ [stats]) : Entry channel worker next (.sent true)
  | close (now : Nat) (info : Option TcpInfo) (progress : Progress) (stats : StreamStats)
      (stage : worker.pc = .leaving progress) (covers : stats.Covers progress now)
      (result : next.pc = .closing progress stats)
      (kept : next.reports = worker.reports) : Entry channel worker next (.leave now info)
  | finish (progress : Progress) (stats : StreamStats)
      (stage : worker.pc = .closing progress stats)
      (result : next.pc = .summarizing progress)
      (sent : next.reports = worker.reports ++ [stats]) : Entry channel worker next (.sent true)
  | summarize (now : Nat) (info : Option TcpInfo) (progress : Progress) (stats : StreamStats)
      (stage : worker.pc = .summarizing progress)
      (duration : stats.duration = asMillis (now - progress.startTime))
      (bytes : stats.bytesTransferred = progress.totalBytesTransferred)
      (result : next.pc = .returned (.ok stats))
      (kept : next.reports = worker.reports) : Entry channel worker next (.summarize now info)

section

variable {build : Build} {channel : Publisher} {worker next : StreamWorker}

@[simp]
theorem recv_reports (channel : Publisher) (worker : StreamWorker) :
    (worker.recv channel).2.reports = worker.reports := by
  simp only [recv]
  split <;> rfl

theorem entry_of_signal {startTime intervalStart : Nat}
    (step : worker.step build channel (.signal startTime intervalStart) = some next) :
    Entry channel worker next (.signal startTime intervalStart) := by
  simp only [StreamWorker.step] at step
  cases stage : worker.pc with
  | waiting =>
      rw [stage] at step
      have kept := recv_reports channel worker
      rcases polled : worker.recv channel with ⟨signal, after⟩
      rw [polled] at step kept
      cases signal with
      | pending => cases step
      | message content =>
          cases content with
          | startLoad =>
              cases step
              exact .start startTime intervalStart stage rfl kept
          | terminate =>
              cases step
              exact .fail _ _ rfl kept
      | lagged missed =>
          cases step
          exact .fail _ _ rfl kept
      | closed =>
          cases step
          exact .fail _ _ rfl kept
  | _ => simp [stage] at step

theorem entry_of_head {now : Nat}
    (step : worker.step build channel (.head now) = some next) :
    Entry channel worker next (.head now) := by
  simp only [StreamWorker.step] at step
  cases stage : worker.pc with
  | head progress =>
      rw [stage] at step
      simp only at step
      split at step
      · cases step
        exact .stop now progress stage rfl rfl
      rename_i onTime
      split at step
      · cases step
        exact .stop now progress stage rfl rfl
      rename_i below
      have kept := recv_reports channel worker
      rcases polled : worker.recv channel with ⟨signal, after⟩
      rw [polled] at step kept
      cases signal with
      | pending =>
          cases step
          exact .enter now progress stage ⟨onTime, below, .inl (congrArg Prod.fst polled)⟩ rfl rfl
      | message content =>
          cases content with
          | startLoad =>
              cases step
              exact .enter now progress stage ⟨onTime, below, .inr (congrArg Prod.fst polled)⟩ rfl
                kept
          | terminate =>
              cases step
              exact .stop now progress stage rfl kept
      | lagged missed =>
          cases step
          exact .fail _ _ rfl kept
      | closed =>
          cases step
          exact .fail _ _ rfl kept
  | _ => simp [stage] at step

/-- The tail of an iteration that has moved `count` bytes. -/
theorem entry_of_afterTransfer {outcome : Transfer} {now : Nat} {info : Option TcpInfo}
    {progress : Progress} (stage : worker.pc = .transferring progress)
    (goesOn : outcome.goesOn)
    (step : next = worker.afterTransfer build
      (progress.add (WorkerEvent.transfer outcome now info).counts.sum) now info) :
    Entry channel worker next (.transfer outcome now info) := by
  rw [step, afterTransfer]
  simp only
  split
  · rename_i late
    exact .due outcome now info progress _ _ stage goesOn late
      (currentStats_covers build worker _ now info) rfl rfl
  · rename_i early
    exact .carry outcome now info progress stage goesOn (Nat.lt_of_not_le early) rfl rfl

theorem entry_of_transfer {outcome : Transfer} {now : Nat} {info : Option TcpInfo}
    (step : worker.step build channel (.transfer outcome now info) = some next) :
    Entry channel worker next (.transfer outcome now info) := by
  simp only [StreamWorker.step] at step
  cases stage : worker.pc with
  | transferring progress =>
      rw [stage] at step
      cases outcome with
      | failed =>
          cases step
          exact .fail _ _ rfl rfl
      | timedOut => exact entry_of_afterTransfer stage rfl (Option.some.inj step).symm
      | moved bytesCount =>
          cases bytesCount with
          | zero =>
              cases step
              exact .gone now info progress stage rfl rfl
          | succ count => exact entry_of_afterTransfer stage rfl (Option.some.inj step).symm
  | _ => simp [stage] at step

theorem entry_of_sent {delivered : Bool}
    (step : worker.step build channel (.sent delivered) = some next) :
    Entry channel worker next (.sent delivered) := by
  simp only [StreamWorker.step] at step
  cases stage : worker.pc with
  | reporting progress now stats =>
      rw [stage] at step
      cases delivered with
      | true =>
          cases step
          exact .report progress now stats stage rfl rfl
      | false =>
          cases step
          exact .fail _ _ rfl rfl
  | closing progress stats =>
      rw [stage] at step
      cases delivered with
      | true =>
          cases step
          exact .finish progress stats stage rfl rfl
      | false =>
          cases step
          exact .fail _ _ rfl rfl
  | _ => simp [stage] at step

/-- A worker that nothing stops reads or writes. -/
theorem step_of_continues {now : Nat} {progress : Progress}
    (stage : worker.pc = .head progress) (continues : worker.Continues channel now progress) :
    ∃ next, worker.step build channel (.head now) = some next ∧
      next.pc = .transferring progress := by
  simp only [StreamWorker.step, stage, continues.onTime, continues.below, if_false]
  rcases polled : worker.recv channel with ⟨signal, after⟩
  have quiet := continues.quiet
  rw [polled] at quiet
  rcases quiet with pending | load
  · rw [show signal = .pending from pending]
    exact ⟨_, rfl, rfl⟩
  · rw [show signal = .message .startLoad from load]
    exact ⟨_, rfl, rfl⟩

/-- A transfer that does not end the loop leads to the tail of the iteration. -/
theorem step_of_goesOn {outcome : Transfer} {now : Nat} {info : Option TcpInfo}
    {progress : Progress} (stage : worker.pc = .transferring progress)
    (goesOn : outcome.goesOn) :
    worker.step build channel (.transfer outcome now info) =
      some (worker.afterTransfer build
        (progress.add (WorkerEvent.transfer outcome now info).counts.sum) now info) := by
  cases outcome with
  | timedOut =>
      simp only [StreamWorker.step, stage]
      rfl
  | failed => cases goesOn
  | moved bytesCount =>
      cases bytesCount with
      | zero => cases goesOn
      | succ count =>
          simp only [StreamWorker.step, stage]
          rfl

theorem entry_of_step {event : WorkerEvent}
    (step : worker.step build channel event = some next) : Entry channel worker next event := by
  cases event with
  | signal startTime intervalStart => exact entry_of_signal step
  | head now => exact entry_of_head step
  | transfer outcome now info => exact entry_of_transfer step
  | sent delivered => exact entry_of_sent step
  | leave now info =>
      simp only [StreamWorker.step] at step
      cases stage : worker.pc with
      | leaving progress =>
          rw [stage] at step
          cases step
          exact .close now info progress _ stage
            (currentStats_covers build worker progress now info) rfl rfl
      | _ => simp [stage] at step
  | summarize now info =>
      simp only [StreamWorker.step] at step
      cases stage : worker.pc with
      | summarizing progress =>
          rw [stage] at step
          cases step
          exact .summarize now info progress _ stage rfl rfl rfl rfl
      | _ => simp [stage] at step

end

end StreamWorker

namespace DataStream

variable {build : Build} {stream next : DataStream} {event : WorkerEvent}

/-- A step of the worker in its surroundings. -/
structure Works (build : Build) (stream next : DataStream) (event : WorkerEvent) : Prop where
  allowed : stream.Allows event
  entry : StreamWorker.Entry stream.channel stream.worker next.worker event
  params : next.worker.params = stream.worker.params
  clock : next.clock = event.readings.getLastD stream.clock
  moved : next.moved = stream.moved ++ event.counts
  moves : stream.worker.step build stream.channel event = some next.worker

theorem works_of_step (step : stream.step build (.work event) = some next) :
    Works build stream next event := by
  simp only [DataStream.step] at step
  split at step
  · rename_i allowed
    rcases Option.map_eq_some_iff.mp step with ⟨worker, moves, rfl⟩
    constructor
    · exact allowed
    · exact StreamWorker.entry_of_step moves
    · exact (StreamWorker.move_of_step moves).2.params
    · rfl
    · rfl
    · exact moves
  · cases step

/-- No reading of a step lies before the clock. -/
theorem Works.le_reading (works : Works build stream next event) {now : Nat}
    (read : now ∈ event.readings) : stream.clock ≤ now :=
  (List.pairwise_cons.mp works.allowed.1).1 now read

/-- Between two readings the clock does not go back. -/
theorem Works.clock_le (works : Works build stream next event) : stream.clock ≤ next.clock := by
  rw [works.clock]
  cases last : event.readings.getLast? with
  | none => simp [List.getLastD_eq_getLast?, last]
  | some reading =>
      rw [List.getLastD_eq_getLast?, last]
      exact works.le_reading (List.mem_of_getLast? last)

/-- The parameters never change. -/
theorem params_of_step {event : StreamEvent} (step : stream.step build event = some next) :
    next.worker.params = stream.worker.params := by
  cases event with
  | publish signal =>
      cases step
      rfl
  | close =>
      cases step
      rfl
  | work event => exact (works_of_step step).params

theorem params_of_reachable {id : Nat} {params : Parameters} {isSending : Bool}
    {channel : Publisher} {clock : Nat}
    (reachable : Reachable (DataStream.step build)
      (.new id params isSending channel clock) stream) : stream.worker.params = params := by
  apply reachable.invariant (fun stream => stream.worker.params = params)
  · intro source event target same step
    exact (params_of_step step).trans same
  · rfl

end DataStream

end Iperf
