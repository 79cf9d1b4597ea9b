import Iperf.Error

/-!
# Stream workers

`runWorker` is a machine whose control points are the awaits of the source.
Each event carries what the awaited operation returned and the clock readings
and kernel samples taken before the next await.  Instants and durations are in
nanoseconds; reports carry truncated milliseconds.

The worker polls its broadcast receiver against the channel as it stands at
that moment, so a schedule of the controller and the workers decides what each
poll sees.
-/

namespace Iperf

open Channel

/-- Signals travel on a channel that retains one message. -/
abbrev Publisher := Broadcast WorkerMessage 1

/-- The kernel counters a report is built from. -/
structure TcpInfo where
  tcpiRetransmits : Nat
  tcpiSndMss : Nat
  tcpiSndCwnd : Nat
  tcpiTotalRetrans : Nat
  deriving DecidableEq

/-- All counters are zero when the kernel cannot be asked. -/
def TcpInfo.default : TcpInfo :=
  ⟨0, 0, 0, 0⟩

def nanosPerSec : Nat := 1000000000

def asMillis (nanos : Nat) : Nat := nanos / 1000000

/-- The locals of `runWorker` that change in its loop. -/
structure Progress where
  startTime : Nat
  index : Nat
  bytesTransferred : Nat
  totalBytesTransferred : Nat
  lastCwnd : Option Nat
  currentIntervalStart : Nat
  deriving DecidableEq

/-- Where `runWorker` stands. -/
inductive WorkerPc where
  /-- Awaiting the first signal. -/
  | waiting
  /-- At the loop head. -/
  | head (progress : Progress)
  /-- Awaiting a read or a write for at most 100 ms. -/
  | transferring (progress : Progress)
  /-- Awaiting the send of an interval report. -/
  | reporting (progress : Progress) (now : Nat) (stats : StreamStats)
  /-- Past the loop. -/
  | leaving (progress : Progress)
  /-- Awaiting the send of the last report. -/
  | closing (progress : Progress) (stats : StreamStats)
  /-- About to build the summary. -/
  | summarizing (progress : Progress)
  | returned (result : Except Error StreamStats)
  deriving DecidableEq

structure StreamWorker where
  id : Nat
  isSending : Bool
  params : Parameters
  receiver : Receiver
  pc : WorkerPc
  /-- Reports accepted by the stats channel so far. -/
  reports : List StreamStats
  /-- Everything the broadcast receiver has yielded so far. -/
  observed : List (Received WorkerMessage)
  deriving DecidableEq

/-- Outcome of one read or write under its timeout. -/
inductive Transfer where
  | timedOut
  | moved (bytesCount : Nat)
  | failed
  deriving DecidableEq

inductive WorkerEvent where
  /-- The first signal arrives; the clock is read twice. -/
  | signal (startTime intervalStart : Nat)
  /-- The loop head is evaluated. -/
  | head (now : Nat)
  /-- The read or write ends. -/
  | transfer (outcome : Transfer) (now : Nat) (info : Option TcpInfo)
  /-- The stats channel accepts the report, or its receiver is gone. -/
  | sent (delivered : Bool)
  /-- The last report is built. -/
  | leave (now : Nat) (info : Option TcpInfo)
  /-- The summary is built. -/
  | summarize (now : Nat) (info : Option TcpInfo)

namespace StreamWorker

/-- The buffer that `runWorker` begins with is left to the process: it is there, or the worker
does nothing at all. -/
def new (id : Nat) (params : Parameters) (isSending : Bool) (receiver : Receiver) :
    StreamWorker :=
  { id, isSending, params, receiver, pc := .waiting, reports := [], observed := [] }

/-- Poll the receiver.  Whatever it yields is recorded. -/
def recv (channel : Publisher) (worker : StreamWorker) :
    Received WorkerMessage × StreamWorker :=
  match channel.recv worker.receiver with
  | (.pending, _) => (.pending, worker)
  | (signal, receiver) =>
      (signal, { worker with receiver, observed := worker.observed ++ [signal] })

def currentStats (build : Build) (worker : StreamWorker) (index currentDuration : Nat)
    (bytesTransferred : Nat) (info : Option TcpInfo) : StreamStats :=
  let info := info.getD TcpInfo.default
  { id := worker.id
    index := some index
    duration := asMillis currentDuration
    bytesTransferred
    retransmits := if build.linux then some info.tcpiRetransmits else none
    cwnd := if build.linux then some (info.tcpiSndCwnd * info.tcpiSndMss) else none
    isSending := worker.isSending
    isPeer := false
    isSummary := false }

def summary (build : Build) (worker : StreamWorker) (progress : Progress) (now : Nat)
    (info : Option TcpInfo) : StreamStats :=
  let info := info.getD TcpInfo.default
  { id := worker.id
    index := none
    duration := asMillis (now - progress.startTime)
    bytesTransferred := progress.totalBytesTransferred
    retransmits := if build.linux then some info.tcpiRetransmits else none
    cwnd := if build.linux then some (info.tcpiSndCwnd * info.tcpiSndMss)
      else progress.lastCwnd
    isSending := worker.isSending
    isPeer := false
    isSummary := true }

/-- The tail of an iteration: report if the interval has passed. -/
def afterTransfer (build : Build) (worker : StreamWorker) (progress : Progress)
    (now : Nat) (info : Option TcpInfo) : StreamWorker :=
  let currentDuration := now - progress.currentIntervalStart
  if worker.params.interval * nanosPerSec ≤ currentDuration then
    let stats := worker.currentStats build progress.index currentDuration
      progress.bytesTransferred info
    { worker with pc := .reporting { progress with lastCwnd := stats.cwnd } now stats }
  else
    { worker with pc := .head progress }

/-- Run from one await of `runWorker` to the next. -/
def step (build : Build) (channel : Publisher) (worker : StreamWorker) :
    WorkerEvent → Option StreamWorker
  | .signal startTime intervalStart =>
      match worker.pc with
      | .waiting =>
          match worker.recv channel with
          | (.pending, _) => none
          | (.message .startLoad, polled) =>
              some { polled with
                pc := .head {
                  startTime
                  index := 0
                  bytesTransferred := 0
                  totalBytesTransferred := 0
                  lastCwnd := none
                  currentIntervalStart := intervalStart } }
          | (.message .terminate, polled) =>
              some { polled with pc := .returned (.error .workerTerminated) }
          | (failure, polled) =>
              some { polled with
                pc := .returned (.error (.streamWorkerError (.receiveError failure))) }
      | _ => none
  | .head now =>
      match worker.pc with
      | .head progress =>
          if worker.params.duration * nanosPerSec < now - progress.startTime then
            some { worker with pc := .leaving progress }
          else if worker.params.maxLength.any (· < progress.totalBytesTransferred) then
            some { worker with pc := .leaving progress }
          else
            match worker.recv channel with
            | (.pending, _) => some { worker with pc := .transferring progress }
            | (.message .terminate, polled) => some { polled with pc := .leaving progress }
            | (.message .startLoad, polled) =>
                some { polled with pc := .transferring progress }
            | (failure, polled) =>
                some { polled with
                  pc := .returned (.error (.streamWorkerError (.receiveError failure))) }
      | _ => none
  | .transfer outcome now info =>
      match worker.pc with
      | .transferring progress =>
          match outcome with
          | .failed =>
              some { worker with
                pc := .returned (.error (.streamWorkerError .streamWorkerIoError)) }
          | .moved 0 => some { worker with pc := .leaving progress }
          | .moved bytesCount =>
              some (worker.afterTransfer build
                { progress with
                  bytesTransferred := progress.bytesTransferred + bytesCount
                  totalBytesTransferred := progress.totalBytesTransferred + bytesCount }
                now info)
          | .timedOut => some (worker.afterTransfer build progress now info)
      | _ => none
  | .sent delivered =>
      match worker.pc with
      | .reporting progress now stats =>
          if delivered then
            some { worker with
              reports := worker.reports ++ [stats]
              pc := .head { progress with
                currentIntervalStart := now
                bytesTransferred := 0
                index := progress.index + 1 } }
          else
            some { worker with
              pc := .returned (.error (.streamWorkerError .streamWorkerSendError)) }
      | .closing progress stats =>
          if delivered then
            some { worker with
              reports := worker.reports ++ [stats]
              pc := .summarizing progress }
          else
            some { worker with
              pc := .returned (.error (.streamWorkerError .streamWorkerSendError)) }
      | _ => none
  | .leave now info =>
      match worker.pc with
      | .leaving progress =>
          some { worker with
            pc := .closing progress
              (worker.currentStats build progress.index
                (now - progress.currentIntervalStart) progress.bytesTransferred info) }
      | _ => none
  | .summarize now info =>
      match worker.pc with
      | .summarizing progress =>
          some { worker with pc := .returned (.ok (worker.summary build progress now info)) }
      | _ => none

end StreamWorker

end Iperf
