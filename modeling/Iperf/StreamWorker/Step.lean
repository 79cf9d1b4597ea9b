import Iperf.StreamWorker.Core

/-!
# What a step of a stream worker can do

A worker is waiting for its first signal, active, or has returned.  `Move`
lists the ways these stages follow one another together with what the
broadcast receiver yielded on the way; everything that is proved about workers
inside a test starts from `move_of_step` and never unfolds `step` again.
-/

namespace Iperf

open Channel

/-- Between the first signal and the return. -/
def WorkerPc.Active : WorkerPc → Prop
  | .waiting => False
  | .returned _ => False
  | _ => True

/-- The data socket or the stats channel fails. -/
def WorkerEvent.Breaks : WorkerEvent → Prop
  | .transfer .failed _ _ => True
  | .sent false => True
  | _ => False

instance : DecidablePred WorkerEvent.Breaks
  | .transfer .failed _ _ | .sent false => .isTrue trivial
  | .transfer .timedOut _ _ | .transfer (.moved _) _ _ | .sent true | .signal _ _ | .head _
  | .leave _ _ | .summarize _ _ => .isFalse id

namespace StreamWorker

@[simp]
theorem new_id (id : Nat) (params : Parameters) (isSending : Bool) (receiver : Receiver) :
    (new id params isSending receiver).id = id :=
  rfl

@[simp]
theorem new_isSending (id : Nat) (params : Parameters) (isSending : Bool)
    (receiver : Receiver) : (new id params isSending receiver).isSending = isSending :=
  rfl

@[simp]
theorem new_receiver (id : Nat) (params : Parameters) (isSending : Bool)
    (receiver : Receiver) : (new id params isSending receiver).receiver = receiver :=
  rfl

@[simp]
theorem new_pc (id : Nat) (params : Parameters) (isSending : Bool) (receiver : Receiver) :
    (new id params isSending receiver).pc = .waiting :=
  rfl

@[simp]
theorem new_observed (id : Nat) (params : Parameters) (isSending : Bool)
    (receiver : Receiver) : (new id params isSending receiver).observed = [] :=
  rfl

theorem recv_of_pending {channel : Publisher} {worker : StreamWorker}
    {receiver : Receiver} (polled : channel.recv worker.receiver = (.pending, receiver)) :
    worker.recv channel = (.pending, worker) := by
  simp only [recv, polled]

theorem recv_of_yield {channel : Publisher} {worker : StreamWorker}
    {signal : Received WorkerMessage} {receiver : Receiver}
    (polled : channel.recv worker.receiver = (signal, receiver))
    (yields : signal ≠ .pending) :
    worker.recv channel =
      (signal, { worker with receiver, observed := worker.observed ++ [signal] }) := by
  cases signal with
  | pending => exact absurd rfl yields
  | message content => simp only [recv, polled]
  | lagged missed => simp only [recv, polled]
  | closed => simp only [recv, polled]

/-- The receiver is left alone. -/
def Unpolled (worker next : StreamWorker) : Prop :=
  next.receiver = worker.receiver ∧ next.observed = worker.observed

/-- The receiver is polled and yields `signal`. -/
def Yields (channel : Publisher) (worker next : StreamWorker)
    (signal : Received WorkerMessage) : Prop :=
  channel.recv worker.receiver = (signal, next.receiver) ∧
    next.observed = worker.observed ++ [signal]

/-- One step of a worker by its effect on stage and receiver. -/
inductive Move (event : WorkerEvent) (channel : Publisher) (worker next : StreamWorker) :
    Prop where
  /-- `StartLoad` arrives. -/
  | start (stage : worker.pc = .waiting)
      (polled : Yields channel worker next (.message .startLoad))
      (result : next.pc.Active)
  /-- The first signal is not `StartLoad`. -/
  | refuse (error : Error) (signal : Received WorkerMessage) (stage : worker.pc = .waiting)
      (other : signal ≠ .message .startLoad)
      (yields : signal ≠ .pending)
      (polled : Yields channel worker next signal)
      (result : next.pc = .returned (.error error))
  /-- A signal is read in the loop. -/
  | poll (content : WorkerMessage) (stage : worker.pc.Active)
      (polled : Yields channel worker next (.message content))
      (result : next.pc.Active)
  /-- The receiver lags or the controller is gone. -/
  | lose (error : Error) (signal : Received WorkerMessage) (stage : worker.pc.Active)
      (failure : ∀ content, signal ≠ .message content)
      (yields : signal ≠ .pending)
      (polled : Yields channel worker next signal)
      (result : next.pc = .returned (.error error))
  | work (stage : worker.pc.Active) (unpolled : Unpolled worker next)
      (result : next.pc.Active)
  /-- Input, output or a report fails. -/
  | fail (error : Error) (breaks : event.Breaks) (stage : worker.pc.Active)
      (unpolled : Unpolled worker next)
      (result : next.pc = .returned (.error error))
  | succeed (stats : StreamStats) (stage : worker.pc.Active)
      (unpolled : Unpolled worker next) (summary : stats.isSummary = true)
      (result : next.pc = .returned (.ok stats))

/-- A step never renames a worker or turns it around. -/
structure SameIdentity (worker next : StreamWorker) : Prop where
  id : next.id = worker.id
  isSending : next.isSending = worker.isSending
  params : next.params = worker.params

theorem afterTransfer_active (build : Build) (worker : StreamWorker) (progress : Progress)
    (now : Nat) (info : Option TcpInfo) :
    (worker.afterTransfer build progress now info).pc.Active ∧
      Unpolled worker (worker.afterTransfer build progress now info) ∧
      SameIdentity worker (worker.afterTransfer build progress now info) := by
  simp only [afterTransfer]
  split
  · exact ⟨trivial, ⟨rfl, rfl⟩, ⟨rfl, rfl, rfl⟩⟩
  · exact ⟨trivial, ⟨rfl, rfl⟩, ⟨rfl, rfl, rfl⟩⟩

theorem move_of_signal {build : Build} {channel : Publisher} {worker next : StreamWorker}
    {startTime intervalStart : Nat}
    (step : worker.step build channel (.signal startTime intervalStart) = some next) :
    Move (.signal startTime intervalStart) channel worker next ∧
      SameIdentity worker next := by
  simp only [StreamWorker.step] at step
  cases stage : worker.pc with
  | waiting =>
      rw [stage] at step
      rcases polled : channel.recv worker.receiver with ⟨signal, receiver⟩
      cases signal with
      | pending =>
          rw [recv_of_pending polled] at step
          simp at step
      | message content =>
          rw [recv_of_yield polled (by simp)] at step
          cases content with
          | startLoad =>
              simp only [Option.some.injEq] at step
              subst step
              exact ⟨.start stage ⟨polled, rfl⟩ trivial, ⟨rfl, rfl, rfl⟩⟩
          | terminate =>
              simp only [Option.some.injEq] at step
              subst step
              exact ⟨.refuse _ (.message .terminate) stage (by simp) (by simp)
                ⟨polled, rfl⟩ rfl, ⟨rfl, rfl, rfl⟩⟩
      | lagged missed =>
          rw [recv_of_yield polled (by simp)] at step
          simp only [Option.some.injEq] at step
          subst step
          exact ⟨.refuse _ (.lagged missed) stage (by simp) (by simp) ⟨polled, rfl⟩ rfl,
            ⟨rfl, rfl, rfl⟩⟩
      | closed =>
          rw [recv_of_yield polled (by simp)] at step
          simp only [Option.some.injEq] at step
          subst step
          exact ⟨.refuse _ .closed stage (by simp) (by simp) ⟨polled, rfl⟩ rfl,
            ⟨rfl, rfl, rfl⟩⟩
  | _ => simp [stage] at step

theorem move_of_head {build : Build} {channel : Publisher} {worker next : StreamWorker}
    {now : Nat} (step : worker.step build channel (.head now) = some next) :
    Move (.head now) channel worker next ∧ SameIdentity worker next := by
  simp only [StreamWorker.step] at step
  cases stage : worker.pc with
  | head progress =>
      have active : worker.pc.Active := by rw [stage]; trivial
      rw [stage] at step
      simp only at step
      split at step
      · cases step
        exact ⟨.work active ⟨rfl, rfl⟩ trivial, ⟨rfl, rfl, rfl⟩⟩
      split at step
      · cases step
        exact ⟨.work active ⟨rfl, rfl⟩ trivial, ⟨rfl, rfl, rfl⟩⟩
      rcases polled : channel.recv worker.receiver with ⟨signal, receiver⟩
      cases signal with
      | pending =>
          rw [recv_of_pending polled] at step
          cases step
          exact ⟨.work active ⟨rfl, rfl⟩ trivial, ⟨rfl, rfl, rfl⟩⟩
      | message content =>
          rw [recv_of_yield polled (by simp)] at step
          cases content with
          | startLoad =>
              cases step
              exact ⟨.poll .startLoad active ⟨polled, rfl⟩ trivial, ⟨rfl, rfl, rfl⟩⟩
          | terminate =>
              cases step
              exact ⟨.poll .terminate active ⟨polled, rfl⟩ trivial, ⟨rfl, rfl, rfl⟩⟩
      | lagged missed =>
          rw [recv_of_yield polled (by simp)] at step
          cases step
          exact ⟨.lose _ (.lagged missed) active (by simp) (by simp) ⟨polled, rfl⟩ rfl,
            ⟨rfl, rfl, rfl⟩⟩
      | closed =>
          rw [recv_of_yield polled (by simp)] at step
          cases step
          exact ⟨.lose _ .closed active (by simp) (by simp) ⟨polled, rfl⟩ rfl,
            ⟨rfl, rfl, rfl⟩⟩
  | _ => simp [stage] at step

theorem move_of_transfer {build : Build} {channel : Publisher} {worker next : StreamWorker}
    {outcome : Transfer} {now : Nat} {info : Option TcpInfo}
    (step : worker.step build channel (.transfer outcome now info) = some next) :
    Move (.transfer outcome now info) channel worker next ∧ SameIdentity worker next := by
  simp only [StreamWorker.step] at step
  cases stage : worker.pc with
  | transferring progress =>
      have active : worker.pc.Active := by rw [stage]; trivial
      rw [stage] at step
      cases outcome with
      | failed =>
          cases step
          exact ⟨.fail _ trivial active ⟨rfl, rfl⟩ rfl, ⟨rfl, rfl, rfl⟩⟩
      | timedOut =>
          cases step
          obtain ⟨result, unpolled, same⟩ :=
            afterTransfer_active build worker progress now info
          exact ⟨.work active unpolled result, same⟩
      | moved bytesCount =>
          cases bytesCount with
          | zero =>
              cases step
              exact ⟨.work active ⟨rfl, rfl⟩ trivial, ⟨rfl, rfl, rfl⟩⟩
          | succ bytesCount =>
              cases step
              obtain ⟨result, unpolled, same⟩ := afterTransfer_active build worker
                { progress with
                  bytesTransferred := progress.bytesTransferred + (bytesCount + 1)
                  totalBytesTransferred :=
                    progress.totalBytesTransferred + (bytesCount + 1) } now info
              exact ⟨.work active unpolled result, same⟩
  | _ => simp [stage] at step

theorem move_of_sent {build : Build} {channel : Publisher} {worker next : StreamWorker}
    {delivered : Bool} (step : worker.step build channel (.sent delivered) = some next) :
    Move (.sent delivered) channel worker next ∧ SameIdentity worker next := by
  simp only [StreamWorker.step] at step
  cases stage : worker.pc with
  | reporting progress now stats | closing progress stats =>
      have active : worker.pc.Active := by rw [stage]; trivial
      rw [stage] at step
      cases delivered with
      | true =>
          cases step
          exact ⟨.work active ⟨rfl, rfl⟩ trivial, ⟨rfl, rfl, rfl⟩⟩
      | false =>
          cases step
          exact ⟨.fail _ trivial active ⟨rfl, rfl⟩ rfl, ⟨rfl, rfl, rfl⟩⟩
  | _ => simp [stage] at step

/-- Every step is one of the listed moves and keeps the worker's identity. -/
theorem move_of_step {build : Build} {channel : Publisher} {worker next : StreamWorker}
    {event : WorkerEvent} (step : worker.step build channel event = some next) :
    Move event channel worker next ∧ SameIdentity worker next := by
  cases event with
  | signal startTime intervalStart => exact move_of_signal step
  | head now => exact move_of_head step
  | transfer outcome now info => exact move_of_transfer step
  | sent delivered => exact move_of_sent step
  | leave now info =>
      simp only [StreamWorker.step] at step
      cases stage : worker.pc with
      | leaving progress =>
          have active : worker.pc.Active := by rw [stage]; trivial
          rw [stage] at step
          cases step
          exact ⟨.work active ⟨rfl, rfl⟩ trivial, ⟨rfl, rfl, rfl⟩⟩
      | _ => simp [stage] at step
  | summarize now info =>
      simp only [StreamWorker.step] at step
      cases stage : worker.pc with
      | summarizing progress =>
          have active : worker.pc.Active := by rw [stage]; trivial
          rw [stage] at step
          cases step
          exact ⟨.succeed _ active ⟨rfl, rfl⟩ rfl rfl, ⟨rfl, rfl, rfl⟩⟩
      | _ => simp [stage] at step

/-! ## The signals a worker has seen -/

/-- A worker that has come past its first signal has observed `StartLoad`
first. -/
def Started (worker : StreamWorker) : Prop :=
  .message .startLoad ∈ worker.observed

/-- What the stage of a worker says about its signals. -/
structure Consistent (worker : StreamWorker) : Prop where
  waiting : worker.pc = .waiting → worker.observed = []
  active : worker.pc.Active → worker.Started
  succeeded : ∀ stats, worker.pc = .returned (.ok stats) → worker.Started

theorem new_consistent (id : Nat) (params : Parameters) (isSending : Bool)
    (receiver : Receiver) : (new id params isSending receiver).Consistent where
  waiting := fun _ => rfl
  active := fun active => active.elim
  succeeded := fun _ returned => by simp at returned

theorem Consistent.move {event : WorkerEvent} {channel : Publisher}
    {worker next : StreamWorker} (consistent : worker.Consistent)
    (move : Move event channel worker next) : next.Consistent := by
  have kept : worker.Started → Unpolled worker next → next.Started := by
    intro started unpolled
    unfold Started
    rw [unpolled.2]
    exact started
  cases move with
  | start stage polled result =>
      have started : next.Started := by
        unfold Started
        rw [polled.2]
        simp
      constructor
      · intro waiting
        rw [waiting] at result
        exact result.elim
      · exact fun _ => started
      · exact fun _ _ => started
  | refuse error signal stage other yields polled result =>
      refine ⟨?_, ?_, ?_⟩ <;> simp [result, WorkerPc.Active]
  | poll content stage polled result =>
      have started : next.Started := by
        unfold Started
        rw [polled.2]
        exact List.mem_append_left _ (consistent.active stage)
      constructor
      · intro waiting
        rw [waiting] at result
        exact result.elim
      · exact fun _ => started
      · exact fun _ _ => started
  | lose error signal stage failure yields polled result =>
      refine ⟨?_, ?_, ?_⟩ <;> simp [result, WorkerPc.Active]
  | work stage unpolled result =>
      have started := kept (consistent.active stage) unpolled
      constructor
      · intro waiting
        rw [waiting] at result
        exact result.elim
      · exact fun _ => started
      · exact fun _ _ => started
  | fail error breaks stage unpolled result =>
      refine ⟨?_, ?_, ?_⟩ <;> simp [result, WorkerPc.Active]
  | succeed stats stage unpolled summary result =>
      have started := kept (consistent.active stage) unpolled
      constructor
      · simp [result]
      · exact fun _ => started
      · exact fun _ _ => started

/-- Observing `StartLoad` means that it was sent. -/
theorem Move.started {event : WorkerEvent} {channel : Publisher}
    {worker next : StreamWorker} (move : Move event channel worker next)
    (started : next.Started) : worker.Started ∨ .startLoad ∈ channel.sent := by
  have keep : Unpolled worker next → worker.Started := by
    intro unpolled
    unfold Started at started
    rwa [unpolled.2] at started
  have split : ∀ signal, Yields channel worker next signal →
      worker.Started ∨ .startLoad ∈ channel.sent := by
    intro signal polled
    unfold Started at started
    rw [polled.2, List.mem_append, List.mem_singleton] at started
    rcases started with before | now
    · exact .inl before
    · have received := polled.1
      rw [← now] at received
      exact .inr (Broadcast.mem_sent_of_recv received)
  cases move with
  | start stage polled result => exact split _ polled
  | refuse error signal stage other yields polled result => exact split _ polled
  | poll content stage polled result => exact split _ polled
  | lose error signal stage failure yields polled result => exact split _ polled
  | work stage unpolled result => exact .inl (keep unpolled)
  | fail error breaks stage unpolled result => exact .inl (keep unpolled)
  | succeed stats stage unpolled summary result => exact .inl (keep unpolled)

/-- A worker that has returned takes no further step. -/
theorem step_of_returned {build : Build} {channel : Publisher} {worker : StreamWorker}
    {event : WorkerEvent} {result : Except Error StreamStats}
    (returned : worker.pc = .returned result) :
    worker.step build channel event = none := by
  cases event <;> simp [StreamWorker.step, returned]

end StreamWorker

end Iperf
