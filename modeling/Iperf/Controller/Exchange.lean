import Iperf.Controller.Results
import Iperf.StreamWorker.Ledger

/-!
# The exchange of the results

Once a side has stored `ExchangeResults` it does nothing but exchange: it drains
its handles, sends its map, reads the map of its peer, and forwards both.  The
server reads before it sends.
-/

namespace Iperf

open Channel

/-! ## Whose a summary is -/

/-- A summary carries the id of its worker and is not marked as the peer's. -/
theorem StreamWorker.own_of_step {build : Build} {channel : Publisher}
    {worker next : StreamWorker} {event : WorkerEvent}
    (step : worker.step build channel event = some next) {result : StreamStats}
    (returned : next.pc = .returned (.ok result)) :
    result.id = worker.id ∧ result.isPeer = false := by
  have other : ∀ {pc}, next.pc = pc → pc ≠ .returned (.ok result) →
      result.id = worker.id ∧ result.isPeer = false := by
    intro pc same differs
    exact absurd (same.symm.trans returned) differs
  cases entry_of_step step with
  | summarize now info progress summary stage duration bytes sent kept =>
      simp only [StreamWorker.step, stage, Option.some.injEq] at step
      rw [← step] at returned
      cases returned
      exact ⟨rfl, rfl⟩
  | start startTime intervalStart stage sent kept => exact other sent (by simp)
  | fail _ error sent kept => exact other sent (by simp)
  | enter now progress stage continues sent kept => exact other sent (by simp)
  | stop now progress stage sent kept => exact other sent (by simp)
  | gone now info progress stage sent kept => exact other sent (by simp)
  | carry outcome now info progress stage goesOn early sent kept => exact other sent (by simp)
  | due outcome now info progress lastCwnd stats stage goesOn late covers sent kept =>
      exact other sent (by simp)
  | report progress now stats stage sent kept => exact other sent (by simp)
  | close now info progress stats stage covers sent kept => exact other sent (by simp)
  | finish progress stats stage sent kept => exact other sent (by simp)

/-- The result of a task is the summary of its worker. -/
structure Task.Own (task : Task) : Prop where
  returned : ∀ result, task.worker.pc = .returned (.ok result) →
    result.id = task.worker.id ∧ result.isPeer = false
  ended : ∀ result, task.phase = .posted result ∨ task.phase = .finished (.ok result) →
    result.id = task.worker.id ∧ result.isPeer = false

namespace Controller

variable {controller next : Controller}

theorem newTask_own (controller : Controller) (stream : TcpStream) :
    (controller.newTask stream).Own where
  returned := by
    rintro result ⟨⟩
  ended := by
    rintro result (⟨⟨⟩⟩ | ⟨⟨⟩⟩)

theorem own_of_taskStep {index : Nat} {event : TaskEvent}
    (own : ∀ task ∈ controller.tasks, task.Own)
    (step : controller.taskStep index event = some next) :
    ∀ task ∈ next.tasks, task.Own := by
  have changed : ∀ after : Task, after.Own →
      ∀ task ∈ controller.tasks.set index after, task.Own := by
    intro after ownAfter task taskMem
    rcases List.mem_or_eq_of_mem_set taskMem with before | same
    · exact own task before
    · exact same ▸ ownAfter
  unfold taskStep at step
  split at step
  · cases step
  · rename_i task found
    have before := own task (List.mem_of_getElem? found)
    split at step
    · rename_i work phase
      rcases Option.map_eq_some_iff.mp step with ⟨worker, moved, result⟩
      rw [← result]
      apply changed
      constructor
      · intro summary returned
        have id := (StreamWorker.move_of_step moved).2.id
        rw [id]
        exact StreamWorker.own_of_step moved returned
      · rintro summary (posted | finished)
        · simp only [phaseAfter] at posted
          split at posted <;> cases posted
        · simp only [phaseAfter] at finished
          split at finished <;> cases finished
    · split at step
      · rename_i phase result returned
        cases step
        apply changed
        constructor
        · exact before.returned
        · rintro summary (⟨⟨⟩⟩ | ⟨⟨⟩⟩)
          exact before.returned result returned
      · cases step
    · rename_i result phase
      cases step
      apply changed
      constructor
      · exact before.returned
      · rintro summary (⟨⟨⟩⟩ | ⟨⟨⟩⟩)
        exact before.ended result (.inl phase)
    · split at step
      · cases step
        apply changed
        constructor
        · exact before.returned
        · rintro summary (⟨⟨⟩⟩ | ⟨⟨⟩⟩)
      · cases step
    · cases step

/-! ## The stages of the exchange -/

/-- The map of its peer, where a step of the exchange reads it. -/
def takes (controller : Controller) : ControllerEvent → List Results
  | .clientRead (.ok (.sendResults remote)) =>
      if controller.pc = .readingResults then [remote] else []
  | .serverRead (.ok (.sendResults remote)) =>
      if controller.pc = .readingResults then [remote] else []
  | _ => []

/-- The summaries of the map. -/
def summaries (controller : Controller) : List StreamStats :=
  controller.streamResults.entries.map Sigma.snd

/-- Nothing has been sent, read or forwarded. -/
structure Untraded (taken : List Results) (controller : Controller) : Prop where
  sent : controller.resultsSent = []
  read : taken = []
  forwarded : controller.forwarded = []

/-- The maps have been exchanged, and all but `left` has been forwarded. -/
structure Forwards (taken : List Results) (left : List StreamStats) (controller : Controller) :
    Prop where
  sent : controller.resultsSent = [controller.streamResults]
  read : ∃ remote, taken = [remote]
  forwarded : (controller.forwarded ++ left).Perm
    (controller.summaries ++ taken.flatMap markPeer)

/-- What has been exchanged once `ExchangeResults` is stored. -/
def Stage (taken : List Results) (controller : Controller) : Prop :=
  match controller.pc with
  | .loopHead | .matched .exchangeResults | .collecting true => controller.Untraded taken
  | .writingResults none => controller.perf.role = .client ∧ controller.Untraded taken
  | .readingResults =>
      taken = [] ∧ controller.forwarded = [] ∧
        controller.resultsSent =
          match controller.perf.role with
          | .client => [controller.streamResults]
          | .server => []
  | .writingResults (some remote) =>
      controller.perf.role = .server ∧ taken = [remote] ∧ controller.forwarded = [] ∧
        controller.resultsSent = []
  | .forwarding localStats remoteStats =>
      controller.Forwards taken (localStats ++ remoteStats)
  | .ended ending => ∃ left, controller.Forwards taken left ∧
      ((left = [] ∧ ending = .returned (.ok ())) ∨
        ending = .returned (.error .sendStreamStatsError))
  | _ => False

/-- Nothing is exchanged before `ExchangeResults` is stored. -/
def Early (taken : List Results) (controller : Controller) : Prop :=
  match controller.pc with
  | .matched .exchangeResults | .collecting true | .writingResults _ | .readingResults => False
  | .forwarding _ _ | .ended _ => controller.resultsSent = [] ∧ taken = []
  | _ => controller.Untraded taken

/-- How far a side has come with the exchange. -/
structure Traded (taken : List Results) (controller : Controller) : Prop where
  early : controller.state ≠ .exchangeResults → controller.Early taken
  stage : controller.state = .exchangeResults → controller.Stage taken
  sender : (∀ localStats remoteStats, controller.pc ≠ .forwarding localStats remoteStats) →
    controller.alive = true → controller.statsSender = true

variable {taken : List Results}

theorem new_traded (build : Build) (perf : Perf) : (new build perf).Traded [] where
  early := fun _ => ⟨rfl, rfl, rfl⟩
  stage := by
    rintro ⟨⟩
  sender := fun _ _ => rfl

theorem Move.sender (move : Move controller next) (before : ¬controller.pc.Closing)
    (after : ¬next.pc.Closing) : next.statsSender = controller.statsSender := by
  cases move with
  | close next closes => exact absurd closes.before before
  | finish next ends =>
      rcases ends.pc with ⟨ending, pc⟩
      rw [pc] at after
      exact absurd trivial after
  | _ => rfl

/-- In the main loop nothing is exchanged. -/
theorem Traded.untraded (traded : controller.Traded taken) (looping : ¬controller.pc.Closing) :
    controller.Untraded taken := by
  by_cases exchange : controller.state = .exchangeResults
  · have stage := traded.stage exchange
    unfold Stage at stage
    split at stage
    all_goals first
      | exact stage
      | exact stage.elim
      | rename_i pc
        rw [pc] at looping
        exact absurd trivial looping
  · have early := traded.early exchange
    unfold Early at early
    split at early
    all_goals first
      | exact early
      | exact early.elim
      | rename_i pc
        rw [pc] at looping
        exact absurd trivial looping

/-- In the main loop the exchange starts with the store. -/
theorem Stage.looping (stage : controller.Stage taken) (looping : ¬controller.pc.Closing) :
    controller.pc = .loopHead ∨ controller.pc = .matched .exchangeResults := by
  unfold Stage at stage
  split at stage
  · rename_i pc
    exact .inl pc
  · rename_i pc
    exact .inr pc
  all_goals first
    | exact stage.elim
    | rename_i pc
      rw [pc] at looping
      exact absurd trivial looping

theorem early_of_looping (untraded : controller.Untraded taken)
    (looping : ¬controller.pc.Closing) (other : controller.pc ≠ .matched .exchangeResults) :
    controller.Early taken := by
  unfold Early
  split
  all_goals first
    | exact untraded
    | rename_i pc
      exact absurd pc other
    | rename_i pc
      rw [pc] at looping
      exact absurd trivial looping

/-- Where the main loop goes from where the exchange starts. -/
theorem Move.from_exchange (move : Move controller next) (after : ¬next.pc.Closing)
    (exchanging : controller.pc = .loopHead ∨ controller.pc = .matched .exchangeResults) :
    next.pc = .matched controller.state := by
  have starts : ∀ pc : Pc, controller.pc = pc → pc ≠ .loopHead →
      pc ≠ .matched .exchangeResults → next.pc = .matched controller.state := by
    intro pc stage notLoopHead notMatched
    rcases exchanging with loopHead | matched
    · exact absurd (stage.symm.trans loopHead) notLoopHead
    · exact absurd (stage.symm.trans matched) notMatched
  cases move with
  | turn pc unlocked => rfl
  | stop exchange pc => exact absurd trivial after
  | close next closes => exact absurd closes.after after
  | finish next ends =>
      rcases ends.pc with ⟨ending, pc⟩
      rw [pc] at after
      exact absurd trivial after
  | pass state pc loaded initial exchange terminate opened =>
      exact starts _ pc (by simp) (by simp [exchange])
  | start pc => exact starts _ pc (by simp) (by simp)
  | createStreams pc => exact starts _ pc (by simp) (by simp)
  | startLoad pc => exact starts _ pc (by simp) (by simp)
  | connect cookie total pc => exact starts _ pc (by simp) (by simp)
  | poll pc => exact starts _ pc (by simp) (by simp)
  | pollSignal mailbox lost pc => exact starts _ pc (by simp) (by simp)
  | recvCreate stream mailbox total pc => exact starts _ pc (by simp) (by simp)
  | recvTerminated id index mailbox pc => exact starts _ pc (by simp) (by simp)
  | recvStray id mailbox pc => exact starts _ pc (by simp) (by simp)
  | recvTerminate mailbox pc => exact starts _ pc (by simp) (by simp)
  | shutdown pc => exact starts _ pc (by simp) (by simp)
  | serverSets target pc => exact starts _ pc (by simp) (by simp)
  | serverSays pc => exact starts _ pc (by simp) (by simp)
  | greet total stream pc => exact starts _ pc (by simp) (by simp)
  | greeted total stream pc => exact starts _ pc (by simp) (by simp)
  | announce target pc => exact starts _ pc (by simp) (by simp)
  | store target pc => exact starts _ pc (by simp) (by simp)
  | join id index results task pc => exact starts _ pc (by simp) (by simp)

/-- From the store of `ExchangeResults` the loop goes straight to the collecting. -/
theorem Traded.loop (traded : controller.Traded taken) (before : ¬controller.pc.Closing)
    (after : ¬next.pc.Closing) (kept : controller.Kept next) (move : Move controller next) :
    next.Traded taken := by
  have untraded := traded.untraded before
  have still : next.Untraded taken :=
    ⟨kept.sent.trans untraded.sent, untraded.read, kept.forwarded.trans untraded.forwarded⟩
  constructor
  · intro other
    apply early_of_looping still after
    intro matched
    have source := move.source
    rw [matched] at source
    rcases source with ⟨pc, state⟩
    rcases move.state with same | ⟨target, storing, -⟩
    · exact other (same.trans state.symm)
    · rw [storing] at pc
      cases pc
  · intro exchange
    rcases move.state with same | ⟨target, -, -, -, pc⟩
    · have stage := traded.stage (same.symm.trans exchange)
      rw [Stage, move.from_exchange after (stage.looping before), same.symm.trans exchange]
      exact still
    · rw [Stage, pc]
      exact still
  · intro notForwarding running
    rw [move.sender before after]
    apply traded.sender _ move.alive
    intro localStats remoteStats pc
    rw [pc] at before
    exact before trivial

theorem takes_of_pc {event : ControllerEvent} (other : controller.pc ≠ .readingResults) :
    controller.takes event = [] := by
  unfold takes
  split
  · rw [if_neg other]
  · rw [if_neg other]
  · rfl

/-- Where the results are collected for the exchange, `ExchangeResults` is stored. -/
theorem Traded.exchange_iff (traded : controller.Traded taken) {exchange : Bool}
    (pc : controller.pc = .collecting exchange ∨
      controller.pc = .matched (if exchange then .exchangeResults else .terminate)) :
    controller.state = .exchangeResults ↔ exchange = true := by
  constructor
  · intro state
    have stage := traded.stage state
    cases exchange with
    | true => rfl
    | false =>
        rcases pc with pc | pc
        · rw [Stage, pc] at stage
          exact stage.elim
        · rw [Stage, pc] at stage
          exact stage.elim
  · intro exchanges
    by_contra state
    have early := traded.early state
    rw [exchanges] at pc
    rcases pc with pc | pc
    · rw [Early, pc] at early
      exact early
    · rw [Early, pc] at early
      exact early

/-- Past the collecting there is only the exchange. -/
theorem Traded.state_of_trading (traded : controller.Traded taken)
    (pc : (∃ remote, controller.pc = .writingResults remote) ∨
      controller.pc = .readingResults) : controller.state = .exchangeResults := by
  by_contra state
  have early := traded.early state
  rcases pc with ⟨remote, pc⟩ | pc
  · rw [Early, pc] at early
    exact early
  · rw [Early, pc] at early
    exact early

/-- Nothing is sent or read without the exchange. -/
theorem Traded.unsent (traded : controller.Traded taken)
    (other : controller.state ≠ .exchangeResults) :
    controller.resultsSent = [] ∧ taken = [] := by
  have early := traded.early other
  unfold Early at early
  split at early
  all_goals first
    | exact early.elim
    | exact ⟨early.sent, early.read⟩
    | exact early

/-- At most one map is ever sent, and it is the one that is kept. -/
theorem Traded.sent (traded : controller.Traded taken) :
    controller.resultsSent = [] ∨ controller.resultsSent = [controller.streamResults] := by
  by_cases state : controller.state = .exchangeResults
  · have stage := traded.stage state
    unfold Stage at stage
    split at stage
    · exact .inl stage.sent
    · exact .inl stage.sent
    · exact .inl stage.sent
    · exact .inl stage.2.sent
    · rcases stage with ⟨-, -, sent⟩
      split at sent
      · exact .inr sent
      · exact .inl sent
    · exact .inl stage.2.2.2
    · exact .inr stage.sent
    · rcases stage with ⟨left, forwards, -⟩
      exact .inr forwards.sent
    · exact stage.elim
  · exact .inl (traded.unsent state).1

theorem Traded.untaken (traded : controller.Traded taken)
    (pc : controller.pc = .readingResults) : taken = [] := by
  have stage := traded.stage (traded.state_of_trading (.inr pc))
  rw [Stage, pc] at stage
  exact stage.1

theorem Traded.sent_of_reading (traded : controller.Traded taken)
    (pc : controller.pc = .readingResults) (role : controller.perf.role = .client) :
    controller.resultsSent = [controller.streamResults] := by
  have stage := traded.stage (traded.state_of_trading (.inr pc))
  rw [Stage, pc, role] at stage
  exact stage.2.2

theorem Traded.sent_of_ended (traded : controller.Traded taken)
    (state : controller.state = .exchangeResults) (ended : controller.alive = false) :
    controller.resultsSent = [controller.streamResults] := by
  have stage := traded.stage state
  unfold alive at ended
  split at ended
  · rename_i ending pc
    rw [Stage, pc] at stage
    rcases stage with ⟨left, forwards, -⟩
    exact forwards.sent
  · cases ended

theorem forwardResults_eq {closing : Controller} (sender : closing.statsSender = true)
    (remote : List StreamStats) :
    closing.forwardResults remote = { closing with
      statsSender := false
      pc := .forwarding closing.summaries remote } := by
  rw [forwardResults, if_pos sender]
  rfl

/-- A handle is drained. -/
theorem Traded.drains (traded : controller.Traded taken) {exchange : Bool}
    (pc : controller.pc = .collecting exchange) (nextPc : next.pc = controller.pc)
    (state : next.state = controller.state)
    (traffic : next.resultsSent = controller.resultsSent ∧
      next.forwarded = controller.forwarded)
    (sender : next.statsSender = controller.statsSender) : next.Traded taken := by
  have still : controller.Untraded taken → next.Untraded taken := fun untraded =>
    ⟨traffic.1.trans untraded.sent, untraded.read, traffic.2.trans untraded.forwarded⟩
  constructor
  · intro other
    rw [state] at other
    have early := traded.early other
    rw [Early, pc] at early
    rw [Early, nextPc, pc]
    cases exchange with
    | true => exact early
    | false => exact still early
  · intro same
    rw [state] at same
    have stage := traded.stage same
    rw [Stage, pc] at stage
    rw [Stage, nextPc, pc]
    cases exchange with
    | true => exact still stage
    | false => exact stage
  · intro _ _
    rw [sender]
    exact traded.sender (by simp [pc]) (by simp [alive, pc])

/-- The handles are all drained. -/
theorem Traded.drained (traded : controller.Traded taken) {exchange : Bool}
    (pc : controller.pc = .collecting exchange) :
    (controller.afterCollect exchange).Traded taken := by
  have state := traded.exchange_iff (.inl pc)
  have sender := traded.sender (by simp [pc]) (by simp [alive, pc])
  cases exchange with
  | true =>
      have stage := traded.stage (state.mpr rfl)
      rw [Stage, pc] at stage
      cases role : controller.perf.role with
      | client =>
          simp only [afterCollect, role, if_true]
          constructor
          · exact fun other => absurd (state.mpr rfl) other
          · exact fun _ => ⟨role, stage.sent, stage.read, stage.forwarded⟩
          · exact fun _ _ => sender
      | server =>
          simp only [afterCollect, role, if_true]
          constructor
          · exact fun other => absurd (state.mpr rfl) other
          · intro _
            simp only [Stage, role]
            exact ⟨stage.read, stage.forwarded, stage.sent⟩
          · exact fun _ _ => sender
  | false =>
      have other : controller.state ≠ .exchangeResults := mt state.mp (by simp)
      have early := traded.early other
      rw [Early, pc] at early
      simp only [afterCollect, Bool.false_eq_true, if_false, forwardResults_eq sender]
      constructor
      · exact fun _ => ⟨early.sent, early.read⟩
      · exact fun same => absurd same other
      · exact fun notForwarding _ => absurd rfl (notForwarding _ _)

/-- The forwarding has begun. -/
theorem traded_forwarding {localStats remoteStats : List StreamStats}
    (state : controller.state = .exchangeResults)
    (forwards : Forwards taken (localStats ++ remoteStats)
      { controller with
        statsSender := false
        pc := .forwarding localStats remoteStats }) :
    Traded taken { controller with
      statsSender := false
      pc := .forwarding localStats remoteStats } where
  early := fun other => absurd state other
  stage := fun _ => forwards
  sender := fun other _ => absurd rfl (other localStats remoteStats)

/-- The workers are told to terminate. -/
theorem Traded.stopped (traded : controller.Traded taken) {exchange : Bool}
    (pc : controller.pc = .matched (if exchange then .exchangeResults else .terminate)) :
    (controller.stopWorkers exchange).Traded taken := by
  have state := traded.exchange_iff (.inr pc)
  have untraded : controller.Untraded taken := by
    apply traded.untraded
    rw [pc]
    exact not_false
  constructor
  · intro other
    cases exchange with
    | true => exact absurd (state.mpr rfl) other
    | false => exact ⟨untraded.sent, untraded.read, untraded.forwarded⟩
  · intro same
    cases exchange with
    | true => exact ⟨untraded.sent, untraded.read, untraded.forwarded⟩
    | false => exact absurd (state.mp same) (by simp)
  · intro _ _
    exact traded.sender (by simp [pc]) (by simp [alive, pc])

/-- The controller ends in the main loop. -/
theorem Traded.failed (traded : controller.Traded taken) {ending : Ending}
    (pc : next.pc = .ended ending) (state : next.state = controller.state)
    (kept : controller.Kept next) (looping : ¬controller.pc.Closing)
    (underway : controller.pc ≠ .loopHead ∧ controller.pc ≠ .matched .exchangeResults) :
    next.Traded taken := by
  have untraded := traded.untraded looping
  constructor
  · intro _
    rw [Early, pc]
    exact ⟨kept.sent.trans untraded.sent, untraded.read⟩
  · intro exchange
    rcases (traded.stage (state.symm.trans exchange)).looping looping with loopHead | matched
    · exact absurd loopHead underway.1
    · exact absurd matched underway.2
  · intro _ running
    rw [alive_of_pc_ended pc] at running
    cases running

/-- The result of a stream that has ended is got in the main loop. -/
theorem Traded.joined (traded : controller.Traded taken) {id index : Nat}
    (pc : controller.pc = .joining id index) (results : Results) :
    Traded taken { controller with
      streamResults := results
      pc := afterTerminatedPc controller.perf.role controller.workers } := by
  have looping : ¬controller.pc.Closing := by
    rw [pc]
    exact not_false
  have untraded := traded.untraded looping
  constructor
  · intro _
    apply early_of_looping
    · exact ⟨untraded.sent, untraded.read, untraded.forwarded⟩
    · simp only [afterTerminatedPc]
      split <;> exact not_false
    · simp only [afterTerminatedPc]
      split <;> simp
  · intro exchange
    rcases (traded.stage exchange).looping looping with loopHead | matched
    · rw [pc] at loopHead
      cases loopHead
    · rw [pc] at matched
      cases matched
  · intro _ _
    exact traded.sender (by simp [pc]) (by simp [alive, pc])

/-- The client sends its map. -/
theorem Traded.sends (traded : controller.Traded taken)
    (pc : controller.pc = .writingResults none) :
    Traded taken { controller with
      resultsSent := controller.resultsSent ++ [controller.streamResults]
      pc := .readingResults } := by
  have state := traded.state_of_trading (.inl ⟨none, pc⟩)
  have stage := traded.stage state
  rw [Stage, pc] at stage
  constructor
  · exact fun other => absurd state other
  · intro _
    simp only [Stage, stage.1, stage.2.sent, List.nil_append]
    exact ⟨stage.2.read, stage.2.forwarded, trivial⟩
  · intro _ _
    exact traded.sender (by simp [pc]) (by simp [alive, pc])

/-- The server answers with its map. -/
theorem Traded.answers (traded : controller.Traded taken) {remote : Results}
    (pc : controller.pc = .writingResults (some remote)) :
    Traded taken ({ controller with
      resultsSent := controller.resultsSent ++ [controller.streamResults]
      }.forwardResults (markPeer remote)) := by
  have state := traded.state_of_trading (.inl ⟨some remote, pc⟩)
  have stage := traded.stage state
  rw [Stage, pc] at stage
  rcases stage with ⟨-, read, forwarded, sent⟩
  have sender := traded.sender (by simp [pc]) (by simp [alive, pc])
  rw [@forwardResults_eq { controller with
    resultsSent := controller.resultsSent ++ [controller.streamResults] } sender]
  apply @traded_forwarding { controller with
    resultsSent := controller.resultsSent ++ [controller.streamResults] } _ _ _ state
  constructor
  · simp only [sent, List.nil_append]
  · exact ⟨remote, read⟩
  · simp only [forwarded, read, List.flatMap_cons, List.flatMap_nil, List.append_nil,
      List.nil_append]
    rfl

/-- The client reads the map of the server. -/
theorem Traded.reads (traded : controller.Traded taken)
    (role : controller.perf.role = .client) (pc : controller.pc = .readingResults)
    (remote : Results) : (controller.forwardResults (markPeer remote)).Traded [remote] := by
  have state := traded.state_of_trading (.inr pc)
  have stage := traded.stage state
  rw [Stage, pc] at stage
  rcases stage with ⟨none, forwarded, sent⟩
  rw [forwardResults_eq (traded.sender (by simp [pc]) (by simp [alive, pc]))]
  rw [role] at sent
  apply traded_forwarding state
  constructor
  · exact sent
  · exact ⟨remote, rfl⟩
  · simp only [forwarded, List.flatMap_cons, List.flatMap_nil, List.append_nil,
      List.nil_append]
    rfl

/-- The server reads the map of the client. -/
theorem Traded.takesMap (traded : controller.Traded taken)
    (role : controller.perf.role = .server) (pc : controller.pc = .readingResults)
    (remote : Results) :
    Traded [remote] { controller with pc := .writingResults (some remote) } := by
  have state := traded.state_of_trading (.inr pc)
  have stage := traded.stage state
  rw [Stage, pc] at stage
  rcases stage with ⟨none, forwarded, sent⟩
  rw [role] at sent
  constructor
  · exact fun other => absurd state other
  · exact fun _ => ⟨role, rfl, forwarded, sent⟩
  · intro _ _
    exact traded.sender (by simp [pc]) (by simp [alive, pc])

/-- Where the results are forwarded, what is left of them is what has not been. -/
theorem Traded.forwarding (traded : controller.Traded taken)
    {localStats remoteStats : List StreamStats}
    (pc : controller.pc = .forwarding localStats remoteStats) :
    (controller.state ≠ .exchangeResults → controller.resultsSent = [] ∧ taken = []) ∧
      (controller.state = .exchangeResults →
        Forwards taken (localStats ++ remoteStats) controller) := by
  constructor
  · intro other
    have early := traded.early other
    rw [Early, pc] at early
    exact early
  · intro state
    have stage := traded.stage state
    rw [Stage, pc] at stage
    exact stage

/-- One of the results is forwarded. -/
theorem Traded.forwards (traded : controller.Traded taken) {stats : StreamStats}
    {localStats remoteStats localLeft remoteLeft : List StreamStats}
    (pc : controller.pc = .forwarding localStats remoteStats)
    (chosen : (localStats ++ remoteStats).Perm (stats :: (localLeft ++ remoteLeft))) :
    Traded taken { controller with
      forwarded := controller.forwarded ++ [stats]
      pc := .forwarding localLeft remoteLeft } := by
  rcases traded.forwarding pc with ⟨early, stage⟩
  constructor
  · exact early
  · intro state
    constructor
    · exact (stage state).sent
    · exact (stage state).read
    · have step : (controller.forwarded ++ [stats] ++ (localLeft ++ remoteLeft)).Perm
          (controller.forwarded ++ (localStats ++ remoteStats)) := by
        rw [List.append_assoc, List.singleton_append]
        exact chosen.symm.append_left controller.forwarded
      exact step.trans (stage state).forwarded
  · exact fun other _ => absurd rfl (other localLeft remoteLeft)

/-- Nobody reads the results any more, or all of them are forwarded. -/
theorem Traded.forwarded (traded : controller.Traded taken)
    {localStats remoteStats : List StreamStats}
    (pc : controller.pc = .forwarding localStats remoteStats) {result : Except Error Unit}
    (whole : (localStats ++ remoteStats = [] ∧ result = .ok ()) ∨
      result = .error .sendStreamStatsError) :
    Traded taken (controller.finish (.returned result)) := by
  rcases traded.forwarding pc with ⟨early, stage⟩
  constructor
  · exact early
  · intro state
    have forwards := stage state
    rcases whole with ⟨none, ok⟩ | failed
    · rw [ok]
      rw [none] at forwards
      exact ⟨[], ⟨forwards.sent, forwards.read, forwards.forwarded⟩, .inl ⟨rfl, rfl⟩⟩
    · rw [failed]
      exact ⟨_, ⟨forwards.sent, forwards.read, forwards.forwarded⟩, .inr rfl⟩
  · intro _ running
    cases running

theorem Traded.move (traded : controller.Traded taken) {event : ControllerEvent}
    (move : ResultMove controller event next) (steady : ¬event.Breaks)
    (meant : controller.pc = .readingResults → ¬event.Strays) :
    next.Traded (taken ++ controller.takes event) := by
  have silent : controller.pc ≠ .readingResults →
      taken ++ controller.takes event = taken := by
    intro other
    rw [takes_of_pc other, List.append_nil]
  cases move with
  | loop _ _ before after kept _ move =>
      rw [silent (fun pc => before (by rw [pc]; trivial))]
      exact traded.loop before after kept move
  | stop _ exchange pc _ =>
      rw [silent (by simp [pc])]
      exact traded.stopped pc
  | fail _ _ ending pc state kept _ workers tasks underway blamed =>
      have looping : ¬controller.pc.Closing := by
        intro closing
        rcases blamed closing with breaks | ⟨reading, strays⟩
        · exact steady breaks
        · exact meant reading strays
      rw [silent (fun pc => looping (by rw [pc]; trivial))]
      exact traded.failed pc state kept looping underway
  | join id index result pc ended =>
      rw [silent (by simp [pc])]
      exact traded.joined pc _
  | collect id index result exchange pc found ended =>
      rw [silent (by simp [pc])]
      exact traded.drains pc rfl rfl ⟨rfl, rfl⟩ rfl
  | drop _ id exchange pc _ =>
      rw [silent (by simp [pc])]
      exact traded.drains pc rfl rfl ⟨rfl, rfl⟩ rfl
  | collected exchange pc none =>
      rw [silent (by simp [pc])]
      exact traded.drained pc
  | send pc =>
      rw [silent (by simp [pc])]
      exact traded.sends pc
  | answer remote pc =>
      rw [silent (by simp [pc])]
      exact traded.answers pc
  | read remote role pc =>
      rw [traded.untaken pc, takes, if_pos pc]
      exact traded.reads role pc remote
  | take remote role pc =>
      rw [traded.untaken pc, takes, if_pos pc]
      exact traded.takesMap role pc remote
  | forward index stats localStats remoteStats localLeft remoteLeft pc chosen =>
      rw [silent (by simp [pc])]
      exact traded.forwards pc chosen
  | abandoned index localStats remoteStats pc =>
      rw [silent (by simp [pc])]
      exact traded.forwarded pc (.inr rfl)
  | done pc =>
      rw [silent (by simp [pc])]
      exact traded.forwarded pc (.inl ⟨rfl, rfl⟩)

/-! ## Steps of others -/

/-- The exchange is left alone. -/
structure Aside (controller next : Controller) : Prop extends Kept controller next where
  perf : next.perf = controller.perf
  state : next.state = controller.state
  sender : next.statsSender = controller.statsSender
  announced : next.announced = controller.announced
  pc : next.pc = controller.pc

theorem aside_of_fields (controller : Controller) (locked : Bool) (shutdown : Shutdown)
    (mailbox : Queue ControllerMessage internalPortBuffer) (lost : List ControllerMessage) :
    Aside controller { controller with locked, shutdown, mailbox, lost } :=
  ⟨⟨rfl, rfl, rfl⟩, rfl, rfl, rfl, rfl, rfl⟩

theorem TaskMove.aside {index : Nat} {event : TaskEvent}
    (move : TaskMove controller index event next) : controller.Aside next := by
  cases move <;> exact ⟨⟨rfl, rfl, rfl⟩, rfl, rfl, rfl, rfl, rfl⟩

theorem Aside.untraded (aside : controller.Aside next) :
    next.Untraded taken ↔ controller.Untraded taken := by
  constructor
  · intro untraded
    exact ⟨aside.sent ▸ untraded.sent, untraded.read, aside.forwarded ▸ untraded.forwarded⟩
  · intro untraded
    exact ⟨aside.sent.trans untraded.sent, untraded.read,
      aside.forwarded.trans untraded.forwarded⟩

theorem Aside.forwards (aside : controller.Aside next) (left : List StreamStats) :
    next.Forwards taken left ↔ controller.Forwards taken left := by
  have summaries : next.summaries = controller.summaries := by
    rw [Controller.summaries, aside.results, Controller.summaries]
  constructor
  · rintro ⟨sent, read, forwarded⟩
    rw [aside.sent, aside.results] at sent
    rw [aside.forwarded, summaries] at forwarded
    exact ⟨sent, read, forwarded⟩
  · rintro ⟨sent, read, forwarded⟩
    rw [← aside.sent, ← aside.results] at sent
    rw [← aside.forwarded, ← summaries] at forwarded
    exact ⟨sent, read, forwarded⟩

theorem Traded.aside (traded : controller.Traded taken) (aside : controller.Aside next) :
    next.Traded taken := by
  constructor
  · intro other
    rw [aside.state] at other
    have early := traded.early other
    simp only [Early, aside.pc, aside.sent, aside.untraded] at early ⊢
    exact early
  · intro same
    rw [aside.state] at same
    have stage := traded.stage same
    simp only [Stage, aside.pc, aside.perf, aside.sent, aside.results, aside.forwarded,
      aside.untraded, aside.forwards] at stage ⊢
    exact stage
  · rw [aside.pc, aside.sender, alive, aside.pc]
    exact traded.sender

/-! ## What a server has announced -/

/-- `ExchangeResults` is the last state a server announces. -/
structure Announces (controller : Controller) : Prop where
  role : controller.perf.role = .server
  reached : .exchangeResults ∈ controller.announced ↔
    controller.state = .exchangeResults ∨ controller.pc = .storing .exchangeResults
  last : .exchangeResults ∉ controller.announced.dropLast

theorem new_announces (build : Build) {perf : Perf} (role : perf.role = .server) :
    (new build perf).Announces where
  role := role
  reached := by simp [new]
  last := List.not_mem_nil

theorem Announces.aside (announces : controller.Announces) (aside : controller.Aside next) :
    next.Announces := by
  constructor
  · rw [aside.perf]
    exact announces.role
  · rw [aside.announced, aside.state, aside.pc]
    exact announces.reached
  · rw [aside.announced]
    exact announces.last

theorem Announces.nothing_after (announces : controller.Announces) {seen rest : List State}
    (announced : controller.announced = seen ++ .exchangeResults :: rest) : rest = [] := by
  have last := announces.last
  by_contra more
  rw [announced, List.dropLast_append_cons, List.dropLast_cons_of_ne_nil more] at last
  exact last (List.mem_append_right _ List.mem_cons_self)

/-- Nothing is announced once the exchange is near. -/
theorem Announces.unannounced (announces : controller.Announces)
    (traded : controller.Traded taken) {target : State}
    (pc : controller.pc = .announcing target) :
    .exchangeResults ∉ controller.announced := by
  intro announced
  rcases announces.reached.mp announced with state | storing
  · have stage := traded.stage state
    rw [Stage, pc] at stage
    exact stage
  · rw [storing] at pc
    cases pc

/-- A state is stored next. -/
theorem Move.of_storing (move : Move controller next) {target : State}
    (pc : controller.pc = .storing target) : next.state = target := by
  have other : ∀ stage : Pc, controller.pc = stage → (∀ target, stage ≠ .storing target) →
      next.state = target := by
    intro stage same differs
    exact absurd (same.symm.trans pc) (differs target)
  cases move with
  | store stored storing unlocked =>
      rw [storing, Pc.storing.injEq] at pc
      exact pc
  | close next closes =>
      have before := closes.before
      rw [pc] at before
      exact before.elim
  | finish next ends => exact absurd pc (ends.settled target)
  | start pc => exact other _ pc (by simp)
  | turn pc => exact other _ pc (by simp)
  | stop exchange pc => exact other _ pc (by simp)
  | pass state pc => exact other _ pc (by simp)
  | createStreams pc => exact other _ pc (by simp)
  | startLoad pc => exact other _ pc (by simp)
  | connect cookie total pc => exact other _ pc (by simp)
  | poll pc => exact other _ pc (by simp)
  | pollSignal mailbox lost pc => exact other _ pc (by simp)
  | recvCreate stream mailbox total pc => exact other _ pc (by simp)
  | recvTerminated id index mailbox pc => exact other _ pc (by simp)
  | recvStray id mailbox pc => exact other _ pc (by simp)
  | recvTerminate mailbox pc => exact other _ pc (by simp)
  | shutdown pc => exact other _ pc (by simp)
  | serverSets target pc => exact other _ pc (by simp)
  | serverSays pc => exact other _ pc (by simp)
  | greet total stream pc => exact other _ pc (by simp)
  | greeted total stream pc => exact other _ pc (by simp)
  | announce target pc => exact other _ pc (by simp)
  | join id index results task pc => exact other _ pc (by simp)

theorem Announces.move (announces : controller.Announces) (traded : controller.Traded taken)
    (move : Move controller next) : next.Announces := by
  have role : next.perf.role = .server := by
    rw [move.perf]
    exact announces.role
  rcases move.announced with same | ⟨target, pc, result⟩
  · constructor
    · exact role
    · rw [same, announces.reached]
      constructor
      · rintro (state | storing)
        · left
          rcases move.state with unchanged | ⟨target, storing, -⟩
          · exact unchanged.trans state
          · have stage := traded.stage state
            rw [Stage, storing] at stage
            exact stage.elim
        · exact .inl (move.of_storing storing)
      · rintro (state | storing)
        · rcases move.state with unchanged | ⟨target, storing, -, stored, -⟩
          · exact .inl (unchanged.symm.trans state)
          · right
            rw [storing, ← stored, state]
        · have source := move.source
          rw [storing] at source
          rcases source with client | announced
          · rw [announces.role] at client
            cases client
          · rw [same] at announced
            exact absurd announced (by simp)
    · rw [same]
      exact announces.last
  · have fresh := announces.unannounced traded pc
    rw [result]
    constructor
    · exact announces.role
    · have state : controller.state ≠ .exchangeResults :=
        fun state => fresh (announces.reached.mpr (.inl state))
      simp only [List.mem_append, fresh, false_or, List.mem_singleton, state,
        Pc.storing.injEq]
      exact eq_comm
    · rw [List.dropLast_concat]
      exact fresh

/-! ## Between the steps of a controller -/

/-- The controller itself takes no step. -/
inductive Rests (controller next : Controller) : Prop where
  | task (index : Nat) (event : TaskEvent)
      (step : controller.taskStep index event = some next) : Rests controller next
  | outside (aside : controller.Aside next) (outside : Outside controller next) :
      Rests controller next

theorem Rests.refl (controller : Controller) : controller.Rests controller :=
  .outside (aside_of_fields controller _ _ _ _) (outside_of_fields controller _ _ _ _)

theorem Rests.aside (rests : controller.Rests next) : controller.Aside next := by
  cases rests with
  | task index event step => exact (move_of_taskStep step).aside
  | outside aside outside => exact aside

/-- What has been joined, of a test whose stream counter does not wrap. -/
structure Gathered (joined : List (Nat × StreamStats)) (controller : Controller) : Prop where
  collected : controller.Collected joined
  own : ∀ task ∈ controller.tasks, task.Own

variable {joined : List (Nat × StreamStats)}

theorem new_gathered (build : Build) (perf : Perf) : (new build perf).Gathered [] where
  collected := new_collected build perf
  own := by
    rintro task ⟨⟩

theorem Gathered.rests (gathered : controller.Gathered joined)
    (rests : controller.Rests next) : next.Gathered joined := by
  cases rests with
  | task index event step =>
      exact ⟨gathered.collected.taskMove (move_of_taskStep step),
        own_of_taskStep gathered.own step⟩
  | outside aside outside =>
      constructor
      · have collected := gathered.collected
        constructor
        · rw [aside.results]
          exact collected.entries
        · rw [outside.tasks]
          exact collected.ended
        · rw [aside.results, outside.workers]
          exact collected.apart
        · rw [aside.pc, outside.tasks, outside.workers, aside.results]
          exact collected.joining
      · rw [outside.tasks]
        exact gathered.own

theorem Gathered.step (gathered : controller.Gathered joined)
    (registered : controller.Registered) (few : controller.tasks.length < UInt16.size)
    {event : ControllerEvent} (step : controller.controllerStep event = some next) :
    next.Gathered (joined ++ controller.joins event) := by
  constructor
  · exact gathered.collected.move registered few (resultMove_of_step step)
  · intro task taskMem
    rcases (move_of_controllerStep step).tasks with same | ⟨stream, added⟩
    · exact gathered.own task (same ▸ taskMem)
    · rw [added] at taskMem
      rcases List.mem_append.mp taskMem with old | new
      · exact gathered.own task old
      · rw [List.mem_singleton.mp new]
        exact newTask_own controller stream

/-- What has been joined carries the id under which it is kept. -/
theorem Gathered.id_eq (gathered : controller.Gathered joined)
    (registered : controller.Registered) (few : controller.tasks.length < UInt16.size)
    {got : Nat × StreamStats} (gotMem : got ∈ joined) :
    got.2.id = got.1 ∧ got.2.isPeer = false := by
  have ended := gathered.collected.ended got gotMem
  cases found : controller.tasks[got.1]? with
  | none => simp [found] at ended
  | some task =>
      rw [found, Option.map_some, Option.some.injEq] at ended
      have own := (gathered.own task (List.mem_of_getElem? found)).ended got.2 (.inr ended)
      have within := (List.getElem?_eq_some_iff.mp found).1
      rw [own.1, (registered.identity got.1 task found).1, Nat.mod_eq_of_lt (within.trans few)]
      exact ⟨rfl, own.2⟩

theorem Registered.lt_streamIndex (registered : controller.Registered)
    (few : controller.tasks.length < UInt16.size) (running : controller.alive = true) {id : Nat}
    (kept : id ∈ controller.workers) : id < controller.streamIndex.toNat := by
  rw [registered.counter running, Nat.mod_eq_of_lt few]
  rcases Option.isSome_iff_exists.mp (AList.lookup_isSome.mpr kept) with ⟨index, found⟩
  rcases registered.position id index found with ⟨within, same⟩
  rw [← same, Nat.mod_eq_of_lt (within.trans few)]
  exact within

theorem Gathered.lt_streamIndex (gathered : controller.Gathered joined)
    (registered : controller.Registered) (few : controller.tasks.length < UInt16.size)
    (running : controller.alive = true) {id : Nat} (held : id ∈ controller.streamResults) :
    id < controller.streamIndex.toNat := by
  rw [registered.counter running, Nat.mod_eq_of_lt few]
  exact gathered.collected.lt held

/-! ## The way through the exchange -/

/-- The handle of a stream completes or is given up. -/
theorem drains_of_lookup (registered : controller.Registered) {exchange : Bool}
    (pc : controller.pc = .collecting exchange) {id index : Nat}
    (found : controller.workers.lookup id = some index) :
    ∃ next, controller.controllerStep (.collect id) = some next ∨
      controller.controllerStep (.abandon id) = some next := by
  have within := (registered.position id index found).1
  simp only [controllerStep, pc, collectOne, abandonOne, found,
    List.getElem?_eq_getElem within, Option.map_some, Option.any_some, Task.isFinished]
  cases phase : (controller.tasks[index]).phase with
  | working => exact ⟨_, .inr rfl⟩
  | posted result => exact ⟨_, .inr rfl⟩
  | finished result =>
      cases result with
      | ok result => exact ⟨_, .inl rfl⟩
      | error error => exact ⟨_, .inl rfl⟩
  | panicked => exact ⟨_, .inl rfl⟩

/-- A side that exchanges has ended, waits for its peer, or goes on. -/
theorem Traded.goes_on (traded : controller.Traded taken) (registered : controller.Registered)
    (state : controller.state = .exchangeResults) (unlocked : controller.locked = false) :
    controller.alive = false ∨ controller.pc = .readingResults ∨
      ∃ event next, event.Closes ∧ controller.controllerStep event = some next := by
  have goes : ∀ event next, event.Closes → controller.controllerStep event = some next →
      controller.alive = false ∨ controller.pc = .readingResults ∨
        ∃ event next, event.Closes ∧ controller.controllerStep event = some next :=
    fun event next closes step => .inr (.inr ⟨event, next, closes, step⟩)
  have stage := traded.stage state
  unfold Stage at stage
  split at stage
  · rename_i pc
    exact goes .turn _ trivial (if_pos ⟨pc, unlocked⟩)
  · rename_i pc
    apply goes .act (controller.act .exchangeResults) trivial
    simp only [controllerStep, pc]
  · rename_i pc
    cases left : controller.workers.entries with
    | nil =>
        apply goes .collected (controller.afterCollect true) trivial
        simp only [controllerStep, pc, left, if_true]
    | cons entry rest =>
        have kept : entry.1 ∈ controller.workers := by
          apply AList.mem_keys.mpr
          rw [AList.keys, List.keys, left]
          exact List.mem_cons_self
        rcases Option.isSome_iff_exists.mp (AList.lookup_isSome.mpr kept) with ⟨index, found⟩
        rcases drains_of_lookup registered pc found with ⟨next, collects | abandons⟩
        · exact goes (.collect entry.1) next trivial collects
        · exact goes (.abandon entry.1) next trivial abandons
  · rename_i pc
    apply goes (.write true) _ rfl
    simp only [controllerStep, pc, if_true]
    rfl
  · rename_i pc
    exact .inr (.inl pc)
  · rename_i remote pc
    apply goes (.write true) _ rfl
    simp only [controllerStep, pc, if_true]
    rfl
  · rename_i localStats remoteStats pc
    cases localStats with
    | nil =>
        cases remoteStats with
        | nil =>
            apply goes .done _ trivial
            simp only [controllerStep, pc]
            rfl
        | cons stats rest =>
            apply goes (.forward 0 true) _ rfl
            simp only [controllerStep, pc, forwardOne, List.getElem?_cons_zero, if_true]
            rfl
    | cons stats rest =>
        apply goes (.forward 0 true) _ rfl
        simp only [controllerStep, pc, forwardOne, List.getElem?_cons_zero, if_true]
        rfl
  · rename_i ending pc
    exact .inl (alive_of_pc_ended pc)
  · exact stage.elim

end Controller

end Iperf
