import Iperf.StreamWorker.Step
import Iperf.Transition.Core

/-!
# The signals a worker gets

A worker that never has more than one signal to read gets all of them in order,
and nothing but the failure of its socket or of the stats channel makes it
return an error.  A worker that has two signals to read before its first poll is
told that it lags, and fails.
-/

namespace Iperf

open Channel Transition

namespace StreamWorker

variable {event : WorkerEvent} {channel : Publisher} {worker next : StreamWorker}

/-- The first signal is `StartLoad`, if there is one. -/
def LoadFirst (channel : Publisher) : Prop :=
  ∀ first rest, channel.sent = first :: rest → first = .startLoad

/-- The worker has read the signals in order and has not failed. -/
structure Current (channel : Publisher) (worker : StreamWorker) : Prop where
  observed : worker.observed = (channel.sent.take worker.receiver.next).map .message
  within : worker.receiver.next ≤ channel.sent.length
  waiting : worker.pc = .waiting → worker.receiver.next = 0
  started : worker.pc ≠ .waiting → 0 < worker.receiver.next
  unfailed : ∀ error, worker.pc ≠ .returned (.error error)
  summary : ∀ stats, worker.pc = .returned (.ok stats) → stats.isSummary = true

theorem Current.send (current : worker.Current channel) (signal : WorkerMessage) :
    worker.Current (channel.send signal) where
  observed := by
    rw [Broadcast.send_sent, List.take_append_of_le_length current.within]
    exact current.observed
  within := by
    rw [Broadcast.send_sent, List.length_append]
    exact current.within.trans (Nat.le_add_right _ _)
  waiting := current.waiting
  started := current.started
  unfailed := current.unfailed
  summary := current.summary

/-- The sender going away does not change what has been sent. -/
theorem Current.congr {other : Publisher} (current : worker.Current channel)
    (sent : other.sent = channel.sent) : worker.Current other where
  observed := sent ▸ current.observed
  within := sent ▸ current.within
  waiting := current.waiting
  started := current.started
  unfailed := current.unfailed
  summary := current.summary

/-- The worker reads one more signal. -/
private theorem Current.reads (current : worker.Current channel)
    {content : WorkerMessage} (recent : (channel.unread worker.receiver).length ≤ 1)
    (opened : channel.closed = false)
    (polled : Yields channel worker next (.message content)) (active : next.pc.Active) :
    next.Current channel := by
  rcases Broadcast.recv_of_recent recent opened polled.1 with ⟨-, pending⟩ |
    ⟨first, rest, unread, same, receiver⟩
  · cases pending
  · cases same
    have position : worker.receiver.next < channel.sent.length := by
      have some := congrArg List.length unread
      rw [Broadcast.unread, List.length_drop, List.length_cons] at some
      omega
    constructor
    · rw [polled.2, receiver, Broadcast.take_succ_of_unread unread, current.observed,
        List.map_append]
      rfl
    · rw [receiver]
      exact position
    · intro waiting
      rw [waiting] at active
      exact active.elim
    · intro _
      rw [receiver]
      exact Nat.succ_pos _
    · intro error returned
      rw [returned] at active
      exact active.elim
    · intro stats returned
      rw [returned] at active
      exact active.elim

/-- A worker that keeps up and whose socket and reports do not fail goes on. -/
theorem Current.move (current : worker.Current channel)
    (recent : (channel.unread worker.receiver).length ≤ 1) (opened : channel.closed = false)
    (loadFirst : LoadFirst channel) (whole : ¬ event.Breaks)
    (move : Move event channel worker next) : next.Current channel := by
  have kept : worker.pc.Active → Unpolled worker next → ¬ next.pc = .waiting →
      (∀ error, next.pc ≠ .returned (.error error)) →
      (∀ stats, next.pc = .returned (.ok stats) → stats.isSummary = true) →
      next.Current channel := by
    intro stage unpolled past unfailed summary
    refine ⟨?_, ?_, fun waiting => absurd waiting past, ?_, unfailed, summary⟩
    · rw [unpolled.1, unpolled.2]
      exact current.observed
    · rw [unpolled.1]
      exact current.within
    · intro _
      rw [unpolled.1]
      apply current.started
      intro waiting
      rw [waiting] at stage
      exact stage
  have messages : ∀ signal, Yields channel worker next signal → signal ≠ .pending →
      ∃ content rest, channel.unread worker.receiver = content :: rest ∧
        signal = .message content := by
    intro signal polled yields
    rcases Broadcast.recv_of_recent recent opened polled.1 with ⟨-, pending⟩ |
      ⟨content, rest, unread, same, -⟩
    · exact absurd pending yields
    · exact ⟨content, rest, unread, same⟩
  cases move with
  | start stage polled result => exact current.reads recent opened polled result
  | poll content stage polled result => exact current.reads recent opened polled result
  | refuse error signal stage other yields polled result =>
      obtain ⟨content, rest, unread, same⟩ := messages signal polled yields
      rw [Broadcast.unread, current.waiting stage, List.drop_zero] at unread
      rw [same, loadFirst content rest unread] at other
      exact absurd rfl other
  | lose error signal stage failure yields polled result =>
      obtain ⟨content, rest, -, same⟩ := messages signal polled yields
      exact absurd same (failure content)
  | work stage unpolled result =>
      apply kept stage unpolled
      · intro waiting
        rw [waiting] at result
        exact result.elim
      · intro error returned
        rw [returned] at result
        exact result.elim
      · intro stats returned
        rw [returned] at result
        exact result.elim
  | fail error breaks stage unpolled result => exact absurd breaks whole
  | succeed stats stage unpolled summary result =>
      apply kept stage unpolled
      · simp [result]
      · simp [result]
      · intro other returned
        rw [result] at returned
        cases returned
        exact summary

/-- Reading takes signals from those still to be read. -/
theorem Move.unread_le (move : Move event channel worker next)
    (recent : (channel.unread worker.receiver).length ≤ 1) (opened : channel.closed = false) :
    (channel.unread next.receiver).length ≤ 1 := by
  have reads : ∀ signal, Yields channel worker next signal → signal ≠ .pending →
      (channel.unread next.receiver).length ≤ 1 := by
    intro signal polled yields
    rcases Broadcast.recv_of_recent recent opened polled.1 with ⟨-, pending⟩ |
      ⟨content, rest, unread, same, receiver⟩
    · exact absurd pending yields
    · rw [receiver]
      rw [Broadcast.unread, List.length_drop] at recent ⊢
      simp only
      omega
  cases move with
  | start stage polled result => exact reads _ polled (by simp)
  | refuse error signal stage other yields polled result => exact reads _ polled yields
  | poll content stage polled result => exact reads _ polled (by simp)
  | lose error signal stage failure yields polled result => exact reads _ polled yields
  | work stage unpolled result => rwa [unpolled.1]
  | fail error breaks stage unpolled result => rwa [unpolled.1]
  | succeed stats stage unpolled summary result => rwa [unpolled.1]

/-- Two signals before the first poll are one too many. -/
theorem Move.overrun (move : Move event channel worker next) (waiting : worker.pc = .waiting)
    (behind : 1 < (channel.unread worker.receiver).length) :
    ∃ error, next.pc = .returned (.error error) := by
  have lags := Broadcast.recv_of_lagging behind
  cases move with
  | start stage polled result =>
      have same := lags.symm.trans polled.1
      cases (Prod.mk.inj same).1
  | refuse error signal stage other yields polled result => exact ⟨error, result⟩
  | poll content stage polled result =>
      rw [waiting] at stage
      exact stage.elim
  | lose error signal stage failure yields polled result => exact ⟨error, result⟩
  | work stage unpolled result =>
      rw [waiting] at stage
      exact stage.elim
  | fail error breaks stage unpolled result => exact ⟨error, result⟩
  | succeed stats stage unpolled summary result =>
      rw [waiting] at stage
      exact stage.elim

/-! ## A worker can always end -/

/-- Some run without a failure leads the worker to its summary. -/
def CanFinish (build : Build) (channel : Publisher) (worker : StreamWorker) : Prop :=
  ∃ events done stats, (∀ event ∈ events, ¬ event.Breaks) ∧
    run (StreamWorker.step build channel) worker events = some done ∧
    done.pc = .returned (.ok stats) ∧ stats.isSummary = true

private theorem CanFinish.of_step {build : Build}
    (step : worker.step build channel event = some next) (whole : ¬ event.Breaks)
    (finish : CanFinish build channel next) : CanFinish build channel worker := by
  obtain ⟨events, done, stats, all, finished, result⟩ := finish
  refine ⟨event :: events, done, stats, ?_, (run_cons_of_step step events).trans finished,
    result⟩
  intro member memberMem
  rcases List.mem_cons.mp memberMem with rfl | laterMem
  · exact whole
  · exact all member laterMem

private theorem canFinish_of_leaving {build : Build} {progress : Progress}
    (pc : worker.pc = .leaving progress) : CanFinish build channel worker := by
  let closing : StreamWorker := { worker with
    pc := .closing progress (worker.currentStats build progress.index
      (0 - progress.currentIntervalStart) progress.bytesTransferred none) }
  let summarizing : StreamWorker := { closing with
    reports := worker.reports ++ [worker.currentStats build progress.index
      (0 - progress.currentIntervalStart) progress.bytesTransferred none]
    pc := .summarizing progress }
  have leaves : worker.step build channel (.leave 0 none) = some closing := by
    simp only [StreamWorker.step, pc, closing]
  have sends : closing.step build channel (.sent true) = some summarizing := rfl
  have ends : summarizing.step build channel (.summarize 0 none) =
      some { summarizing with
        pc := .returned (.ok (summarizing.summary build progress 0 none)) } := rfl
  apply CanFinish.of_step leaves not_false
  apply CanFinish.of_step sends not_false
  apply CanFinish.of_step ends not_false
  exact ⟨[], _, _, fun event eventMem => absurd eventMem List.not_mem_nil, rfl, rfl, rfl⟩

private theorem canFinish_of_head {build : Build} {progress : Progress}
    (pc : worker.pc = .head progress) : CanFinish build channel worker := by
  let now := progress.startTime + worker.params.duration * nanosPerSec + 1
  have elapsed : worker.params.duration * nanosPerSec < now - progress.startTime := by omega
  have leaves : worker.step build channel (.head now) =
      some { worker with pc := .leaving progress } := by
    simp only [StreamWorker.step, pc, elapsed, if_true]
  exact CanFinish.of_step leaves not_false (canFinish_of_leaving rfl)

private theorem canFinish_of_reporting {build : Build} {progress : Progress} {now : Nat}
    {stats : StreamStats} (pc : worker.pc = .reporting progress now stats) :
    CanFinish build channel worker := by
  have sends : worker.step build channel (.sent true) = some { worker with
      reports := worker.reports ++ [stats]
      pc := .head { progress with
        currentIntervalStart := now
        bytesTransferred := 0
        index := progress.index + 1 } } := by
    simp only [StreamWorker.step, pc, if_true]
  exact CanFinish.of_step sends not_false (canFinish_of_head rfl)

/-- A worker in its loop ends when the time of the test is up. -/
theorem canFinish_of_active (build : Build) (channel : Publisher)
    (active : worker.pc.Active) : CanFinish build channel worker := by
  cases pc : worker.pc with
  | waiting => simp [pc, WorkerPc.Active] at active
  | returned result => simp [pc, WorkerPc.Active] at active
  | head progress => exact canFinish_of_head pc
  | reporting progress now stats => exact canFinish_of_reporting pc
  | leaving progress => exact canFinish_of_leaving pc
  | transferring progress =>
      have waits : worker.step build channel (.transfer .timedOut 0 none) =
          some (worker.afterTransfer build progress 0 none) := by
        simp only [StreamWorker.step, pc]
      apply CanFinish.of_step waits not_false
      simp only [afterTransfer]
      split
      · exact canFinish_of_reporting rfl
      · exact canFinish_of_head rfl
  | closing progress stats =>
      have sends : worker.step build channel (.sent true) = some { worker with
          reports := worker.reports ++ [stats], pc := .summarizing progress } := by
        simp only [StreamWorker.step, pc, if_true]
      apply CanFinish.of_step sends not_false
      have ends : StreamWorker.step build channel { worker with
          reports := worker.reports ++ [stats], pc := .summarizing progress }
          (.summarize 0 none) = some { worker with
            reports := worker.reports ++ [stats]
            pc := .returned (.ok (worker.summary build progress 0 none)) } := rfl
      apply CanFinish.of_step ends not_false
      exact ⟨[], _, _, fun event eventMem => absurd eventMem List.not_mem_nil, rfl, rfl, rfl⟩
  | summarizing progress =>
      have ends : worker.step build channel (.summarize 0 none) = some { worker with
          pc := .returned (.ok (worker.summary build progress 0 none)) } := by
        simp only [StreamWorker.step, pc]
      apply CanFinish.of_step ends not_false
      exact ⟨[], _, _, fun event eventMem => absurd eventMem List.not_mem_nil, rfl, rfl, rfl⟩

theorem Current.canFinish_of_returned (build : Build) (current : worker.Current channel)
    {result : Except Error StreamStats} (pc : worker.pc = .returned result) :
    CanFinish build channel worker := by
  cases result with
  | error error => exact absurd pc (current.unfailed error)
  | ok stats =>
      exact ⟨[], worker, stats, fun event eventMem => absurd eventMem List.not_mem_nil, rfl,
        pc, current.summary stats pc⟩

/-- A worker that has not failed and has a first signal can end. -/
theorem Current.canFinish (build : Build) (current : worker.Current channel)
    (recent : (channel.unread worker.receiver).length ≤ 1) (loadFirst : LoadFirst channel)
    (loaded : channel.sent ≠ []) : CanFinish build channel worker := by
  cases pc : worker.pc with
  | waiting =>
      obtain ⟨first, rest, sent⟩ := List.exists_cons_of_ne_nil loaded
      have unread : channel.unread worker.receiver = .startLoad :: rest := by
        rw [Broadcast.unread, current.waiting pc, List.drop_zero, sent,
          loadFirst first rest sent]
      have polled := recv_of_yield (Broadcast.recv_of_unread unread recent) (by simp)
      have starts : worker.step build channel (.signal 0 0) = some { worker with
          receiver := ⟨worker.receiver.next + 1⟩
          observed := worker.observed ++ [.message .startLoad]
          pc := .head {
            startTime := 0
            index := 0
            bytesTransferred := 0
            totalBytesTransferred := 0
            lastCwnd := none
            currentIntervalStart := 0 } } := by
        simp only [StreamWorker.step, pc, polled]
      exact CanFinish.of_step starts not_false (canFinish_of_head rfl)
  | returned result => exact current.canFinish_of_returned build pc
  | head | transferring | reporting | leaving | closing | summarizing =>
      exact canFinish_of_active build channel (by rw [pc]; trivial)

end StreamWorker

end Iperf
