import Iperf.Controller.Registry
import Mathlib.Data.List.Perm.Basic

/-!
# The results of the streams

The result of a stream reaches the map on one of two ways: its
`StreamTerminated` is handled while the test runs, or its handle is drained at
the end.  `ResultMove` says what each step of a controller does with the handles,
the map, what is sent to the peer and what is forwarded.
-/

namespace Iperf

open Channel

namespace Controller

/-- The result of the task at `index`, if it has ended with one. -/
def resultOf (controller : Controller) (index : Nat) : List (Nat × StreamStats) :=
  match (controller.tasks[index]?).map Task.phase with
  | some (.finished (.ok result)) => [(index, result)]
  | _ => []

/-- The results a step of the controller gets from the handles it awaits, with the
positions of their tasks. -/
def joins (controller : Controller) : ControllerEvent → List (Nat × StreamStats)
  | .join =>
      match controller.pc with
      | .joining _ index => controller.resultOf index
      | _ => []
  | .collect id => (controller.workers.lookup id).elim [] controller.resultOf
  | _ => []

/-- Nothing happens to the results. -/
structure Kept (controller next : Controller) : Prop where
  results : next.streamResults = controller.streamResults
  sent : next.resultsSent = controller.resultsSent
  forwarded : next.forwarded = controller.forwarded

variable {controller next : Controller}

/-- Other fields do not matter. -/
theorem Kept.fields (kept : controller.Kept next) {other : Controller}
    (results : other.streamResults = next.streamResults)
    (sent : other.resultsSent = next.resultsSent)
    (forwarded : other.forwarded = next.forwarded) : controller.Kept other :=
  ⟨results.trans kept.results, sent.trans kept.sent, forwarded.trans kept.forwarded⟩

theorem kept_createAndRegisterStreamWorker (controller : Controller) (stream : TcpStream) :
    controller.Kept (controller.createAndRegisterStreamWorker stream) := by
  rcases createAndRegisterStreamWorker_cases controller stream with
    ⟨-, result⟩ | result | result <;>
    rw [result] <;> exact ⟨rfl, rfl, rfl⟩

theorem kept_acceptStream (controller : Controller) (stream : TcpStream) :
    controller.Kept (controller.acceptStream stream) := by
  have registered := kept_createAndRegisterStreamWorker controller stream
  unfold acceptStream
  split
  · exact ⟨rfl, rfl, rfl⟩
  · split
    · exact ⟨rfl, rfl, rfl⟩
    · simp only
      split
      · split <;> exact registered.fields rfl rfl rfl
      · exact registered

theorem kept_afterTerminated (controller : Controller) :
    controller.Kept controller.afterTerminated := by
  rw [afterTerminated_eq]
  exact ⟨rfl, rfl, rfl⟩

theorem kept_processInternalMessage (controller : Controller) (message : ControllerMessage) :
    controller.Kept (controller.processInternalMessage message) := by
  cases message with
  | createStream stream => exact kept_acceptStream controller stream
  | streamTerminated id =>
      simp only [processInternalMessage]
      split
      · exact ⟨rfl, rfl, rfl⟩
      · exact kept_afterTerminated controller
  | terminate => exact ⟨rfl, rfl, rfl⟩

theorem kept_act (controller : Controller) (state : State) :
    controller.Kept (controller.act state) := by
  cases state with
  | start =>
      simp only [act]
      split <;> exact ⟨rfl, rfl, rfl⟩
  | createStreams cookie =>
      simp only [act]
      split
      · exact ⟨rfl, rfl, rfl⟩
      · simp only [createStreams]
        split
        · exact ⟨rfl, rfl, rfl⟩
        · simp only [createStreamsLoop]
          split <;> exact ⟨rfl, rfl, rfl⟩
  | running =>
      simp only [act]
      split
      · exact ⟨rfl, rfl, rfl⟩
      · split <;> exact ⟨rfl, rfl, rfl⟩
  | exchangeResults => exact ⟨rfl, rfl, rfl⟩
  | terminate => exact ⟨rfl, rfl, rfl⟩

theorem kept_trySend (controller : Controller) (message : ControllerMessage) :
    controller.Kept (controller.trySend message) := by
  rcases trySend_eq controller message with ⟨mailbox, lost, -, result⟩
  rw [result]
  exact ⟨rfl, rfl, rfl⟩

/-- What the server says in the main loop leaves the results alone. -/
private theorem kept_of_clientRead {outcome : Except Error ServerMessage}
    (step : controller.controllerStep (.clientRead outcome) = some next)
    (looping : ¬controller.pc.Closing) : controller.Kept next := by
  simp only [controllerStep] at step
  split at step
  · split at step
    · rename_i message pc
      cases step
      cases message <;> exact ⟨rfl, rfl, rfl⟩
    · rename_i results pc
      rw [pc] at looping
      exact absurd trivial looping
    · cases step
      exact ⟨rfl, rfl, rfl⟩
    · cases step
      exact ⟨rfl, rfl, rfl⟩
    · cases step
      exact ⟨rfl, rfl, rfl⟩
    · cases step
  · cases step

private theorem kept_of_reply {outcome : Except Error ServerMessage}
    (step : controller.controllerStep (.reply outcome) = some next) :
    controller.Kept next := by
  simp only [controllerStep] at step
  split at step
  · rename_i total stream _ _
    have registered := kept_createAndRegisterStreamWorker controller stream
    split at step
    · cases step
      simp only [createStreamsLoop]
      split <;> exact registered.fields rfl rfl rfl
    · cases step
      exact registered
  · cases step
    exact ⟨rfl, rfl, rfl⟩
  · cases step

/-- The main loop leaves the results alone, but for awaiting a handle. -/
theorem kept_of_step {event : ControllerEvent}
    (step : controller.controllerStep event = some next) (looping : ¬controller.pc.Closing)
    (noJoin : event ≠ .join) : controller.Kept next := by
  cases event with
  | start | turn | shutdown =>
      simp only [controllerStep] at step
      split at step
      · cases step
        exact ⟨rfl, rfl, rfl⟩
      · cases step
  | act =>
      simp only [controllerStep] at step
      split at step
      · cases step
        exact kept_act controller _
      · cases step
  | poll =>
      simp only [controllerStep] at step
      split at step
      · split at step
        · cases step
          exact (kept_trySend controller .terminate).fields rfl rfl rfl
        · cases step
          exact ⟨rfl, rfl, rfl⟩
      · cases step
  | recv =>
      simp only [controllerStep] at step
      split at step
      · split at step
        · rename_i message mailbox _
          cases step
          have kept := kept_processInternalMessage (controller.dequeue message mailbox) message
          exact ⟨kept.results, kept.sent, kept.forwarded⟩
        · cases step
      · cases step
  | clientRead outcome => exact kept_of_clientRead step looping
  | serverRead outcome =>
      simp only [controllerStep] at step
      split at step
      · split at step
        · cases step
          exact ⟨rfl, rfl, rfl⟩
        · cases step
          exact ⟨rfl, rfl, rfl⟩
        · cases step
          exact ⟨rfl, rfl, rfl⟩
        · cases step
      · cases step
  | connect outcome =>
      simp only [controllerStep] at step
      split at step
      · cases step
        exact ⟨rfl, rfl, rfl⟩
      · cases step
        exact ⟨rfl, rfl, rfl⟩
      · cases step
  | reply outcome => exact kept_of_reply step
  | write delivered =>
      simp only [controllerStep] at step
      split at step
      · split at step <;> cases step <;> exact ⟨rfl, rfl, rfl⟩
      · rename_i pc
        rw [pc] at looping
        exact absurd trivial looping
      · rename_i remote pc
        rw [pc] at looping
        exact absurd trivial looping
      · cases step
  | store =>
      simp only [controllerStep] at step
      split at step
      · split at step
        · cases step
        · cases step
          exact ⟨rfl, rfl, rfl⟩
      · cases step
  | join => exact absurd rfl noJoin
  | collect id | abandon id | collected | forward index delivered =>
      simp only [controllerStep] at step
      split at step
      · rename_i pc
        rw [pc] at looping
        exact absurd trivial looping
      · cases step
  | done =>
      simp only [controllerStep] at step
      split at step
      · cases step
        exact ⟨rfl, rfl, rfl⟩
      · cases step

/-! ## What a step does with the results -/

/-- A step of the main loop stays in it, or leaves it for good. -/
theorem Move.looping (move : Move controller next) (looping : ¬controller.pc.Closing) :
    ¬next.pc.Closing ∨ (∃ ending, next.pc = .ended ending) ∨
      ∃ exchange, controller.pc =
          .matched (if exchange then .exchangeResults else .terminate) ∧
        next = controller.stopWorkers exchange := by
  cases move with
  | close next closes => exact absurd closes.before looping
  | finish next ends => exact .inr (.inl ends.pc)
  | stop exchange pc => exact .inr (.inr ⟨exchange, pc, rfl⟩)
  | recvCreate =>
      left
      simp only
      split <;> exact id
  | greeted =>
      left
      simp only
      split <;> exact id
  | recvStray | join =>
      left
      simp only [afterTerminatedPc]
      split <;> exact id
  | recvTerminate | shutdown =>
      left
      simp only [setStatePc]
      split <;> exact id
  | _ => exact .inl id

/-- What is known of the step that leads to a point of the main loop. -/
theorem Move.source (move : Move controller next) :
    match next.pc with
    | .joining id index =>
        controller.workers.lookup id = some index ∧
          next.workers = controller.workers.erase id
    | .matched state => controller.pc = .loopHead ∧ state = controller.state
    | .announcing _ => controller.perf.role = .server
    | .storing target =>
        controller.perf.role = .client ∨
          next.announced = controller.announced ++ [target]
    | _ => True := by
  cases move with
  | turn pc unlocked => exact ⟨pc, rfl⟩
  | createStreams pc role => exact role
  | recvTerminated id index mailbox pc head found => exact ⟨found, rfl⟩
  | serverSets target pc role => exact .inl role
  | announce target pc => exact .inr rfl
  | recvCreate stream mailbox total pc role head needed =>
      by_cases last : (controller.register stream).workers.entries.length = total.toNat
      · simp only [last, if_true]
        exact role
      · simp only [last, if_false]
  | greeted total stream pc =>
      by_cases more : controller.streamIndex + 1 < total
      · simp only [more, if_true]
      · simp only [more, if_false]
  | recvStray | join =>
      by_cases last : controller.workers.entries = [] ∧ controller.perf.role = .server
      · simp only [afterTerminatedPc, last, and_self, if_true]
      · simp only [afterTerminatedPc, last, if_false]
  | recvTerminate | shutdown =>
      cases role : controller.perf.role with
      | server => simp only [setStatePc]
      | client => simp only [setStatePc, true_or]
  | close next closes =>
      have after := closes.after
      split
      all_goals first
        | trivial
        | rename_i pc
          rw [pc] at after
          exact after.elim
  | finish next ends =>
      rcases ends.pc with ⟨ending, pc⟩
      rw [pc]
      trivial
  | _ => trivial

/-- A client that does not announce decides in `select!` which state to store. -/
theorem Move.pc_of_storing (move : Move controller next)
    (role : controller.perf.role = .client)
    (silent : ∀ target, controller.pc ≠ .announcing target) {target : State}
    (storing : next.pc = .storing target) : controller.pc = .selecting := by
  cases move with
  | serverSets target pc role => exact pc
  | recvCreate stream mailbox total pc => exact pc
  | recvStray id mailbox pc => exact pc
  | recvTerminate mailbox pc => exact pc
  | shutdown pc => exact pc
  | announce target pc => exact absurd pc (silent target)
  | join id index results task pc =>
      rw [afterTerminatedPc_client role] at storing
      cases storing
  | greeted total stream pc =>
      simp only at storing
      split at storing <;> cases storing
  | close next closes =>
      have after := closes.after
      rw [storing] at after
      exact after.elim
  | finish next ends =>
      rcases ends.pc with ⟨ending, pc⟩
      rw [storing] at pc
      cases pc
  | _ => cases storing

/-- Only a server announces. -/
theorem Move.silent (move : Move controller next) (role : controller.perf.role = .client)
    (target : State) : next.pc ≠ .announcing target := by
  intro pc
  have source := move.source
  rw [pc] at source
  rw [role] at source
  cases source

/-- A client stores what the server has told it, unless it terminates of its own
accord. -/
theorem storing_of_step {event : ControllerEvent} (role : controller.perf.role = .client)
    (silent : ∀ target, controller.pc ≠ .announcing target)
    (step : controller.controllerStep event = some next) {target : State}
    (storing : next.pc = .storing target)
    (told : target = .terminate →
      controller.shutdown = .quiet ∧ .terminate ∉ controller.mailbox.items) :
    event = .clientRead (.ok (.setState target)) := by
  have pc := (move_of_controllerStep step).pc_of_storing role silent storing
  cases event with
  | clientRead outcome =>
      cases outcome with
      | ok message =>
          simp only [controllerStep, role, if_true, pc, Option.some.injEq] at step
          rw [← step] at storing
          cases message with
          | setState state =>
              simp only [processServerMessage, setState, role, setStatePc,
                Pc.storing.injEq] at storing
              rw [storing]
          | _ => cases storing
      | error error =>
          simp only [controllerStep, role, if_true, pc, Option.some.injEq] at step
          rw [← step] at storing
          cases storing
  | recv =>
      simp only [controllerStep, pc, if_true] at step
      split at step
      · rename_i message mailbox received
        cases step
        cases message with
        | createStream stream =>
            simp only [processInternalMessage, acceptStream, dequeue, role] at storing
            cases storing
        | streamTerminated id =>
            simp only [processInternalMessage] at storing
            split at storing
            · cases storing
            · simp only [afterTerminated, dequeue, role, reduceCtorEq, and_false,
                if_false] at storing
        | terminate =>
            simp only [processInternalMessage, setState, dequeue, role, setStatePc,
              Pc.storing.injEq] at storing
            have empty := (told storing.symm).2
            rw [Queue.recv_eq_some_iff.mp received] at empty
            exact absurd List.mem_cons_self empty
      · cases step
  | shutdown =>
      simp only [controllerStep, pc, true_and, Option.ite_none_right_eq_some,
        Option.some.injEq] at step
      rw [← step.2] at storing
      simp only [setState, role, setStatePc, Pc.storing.injEq] at storing
      exact absurd (told storing.symm).1 step.1
  | _ => simp [controllerStep, pc] at step

end Controller

/-- The control connection fails. -/
def ControllerEvent.Breaks : ControllerEvent → Prop
  | .write delivered => delivered = false
  | .clientRead (.error _) => True
  | .serverRead (.error _) => True
  | _ => False

/-- A step towards the end that waits for no message. -/
def ControllerEvent.Closes : ControllerEvent → Prop
  | .turn | .act | .collect _ | .abandon _ | .collected | .done => True
  | .write delivered => delivered = true
  | .forward _ delivered => delivered = true
  | _ => False

theorem ControllerEvent.Closes.steady {own : ControllerEvent} (closes : own.Closes) :
    ¬own.Breaks := by
  cases own with
  | write delivered =>
      intro broken
      cases closes.symm.trans broken
  | clientRead outcome | serverRead outcome => exact closes.elim
  | _ => exact not_false

/-- A message is read that carries no results. -/
def ControllerEvent.Strays : ControllerEvent → Prop
  | .clientRead (.ok message) => ∀ results, message ≠ .sendResults results
  | .serverRead (.ok message) => ∀ results, message ≠ .sendResults results
  | _ => False

namespace Controller

variable {controller next : Controller}

/-- How the results fare in a step. -/
inductive ResultMove (controller : Controller) : ControllerEvent → Controller → Prop where
  /-- In the main loop, and no result is got. -/
  | loop (event : ControllerEvent) (next : Controller) (before : ¬controller.pc.Closing)
      (after : ¬next.pc.Closing) (kept : controller.Kept next)
      (silent : controller.joins event = []) (move : Move controller next) :
      ResultMove controller event next
  | stop (event : ControllerEvent) (exchange : Bool)
      (pc : controller.pc =
        .matched (if exchange then .exchangeResults else .terminate))
      (silent : controller.joins event = []) :
      ResultMove controller event (controller.stopWorkers exchange)
  /-- The controller ends; past the main loop somebody else is to blame. -/
  | fail (event : ControllerEvent) (next : Controller) (ending : Ending)
      (pc : next.pc = .ended ending) (state : next.state = controller.state)
      (kept : controller.Kept next) (silent : controller.joins event = [])
      (workers : next.workers = ∅)
      (tasks : next.tasks = controller.tasks ∨
        ∃ stream, next.tasks = controller.tasks ++ [controller.newTask stream])
      (underway : controller.pc ≠ .loopHead ∧ controller.pc ≠ .matched .exchangeResults)
      (blamed : controller.pc.Closing →
        event.Breaks ∨ (controller.pc = .readingResults ∧ event.Strays)) :
      ResultMove controller event next
  | join (id index : Nat) (result : StreamStats) (pc : controller.pc = .joining id index)
      (ended : controller.resultOf index = [(index, result)]) :
      ResultMove controller .join { controller with
        streamResults := controller.streamResults.insert id result
        pc := afterTerminatedPc controller.perf.role controller.workers }
  | collect (id index : Nat) (result : StreamStats) (exchange : Bool)
      (pc : controller.pc = .collecting exchange)
      (found : controller.workers.lookup id = some index)
      (ended : controller.resultOf index = [(index, result)]) :
      ResultMove controller (.collect id) { controller with
        workers := controller.workers.erase id
        streamResults := controller.streamResults.insert id result }
  /-- A handle is given up without a result. -/
  | drop (event : ControllerEvent) (id : Nat) (exchange : Bool)
      (pc : controller.pc = .collecting exchange) (silent : controller.joins event = []) :
      ResultMove controller event
        { controller with workers := controller.workers.erase id }
  | collected (exchange : Bool) (pc : controller.pc = .collecting exchange)
      (none : controller.workers.entries = []) :
      ResultMove controller .collected (controller.afterCollect exchange)
  | send (pc : controller.pc = .writingResults none) :
      ResultMove controller (.write true) { controller with
        resultsSent := controller.resultsSent ++ [controller.streamResults]
        pc := .readingResults }
  | answer (remote : Results) (pc : controller.pc = .writingResults (some remote)) :
      ResultMove controller (.write true) ({ controller with
        resultsSent := controller.resultsSent ++ [controller.streamResults]
        }.forwardResults (markPeer remote))
  | read (remote : Results) (role : controller.perf.role = .client)
      (pc : controller.pc = .readingResults) :
      ResultMove controller (.clientRead (.ok (.sendResults remote)))
        (controller.forwardResults (markPeer remote))
  | take (remote : Results) (role : controller.perf.role = .server)
      (pc : controller.pc = .readingResults) :
      ResultMove controller (.serverRead (.ok (.sendResults remote)))
        { controller with pc := .writingResults (some remote) }
  | forward (index : Nat) (stats : StreamStats)
      (localStats remoteStats localLeft remoteLeft : List StreamStats)
      (pc : controller.pc = .forwarding localStats remoteStats)
      (chosen : (localStats ++ remoteStats).Perm (stats :: (localLeft ++ remoteLeft))) :
      ResultMove controller (.forward index true) { controller with
        forwarded := controller.forwarded ++ [stats]
        pc := .forwarding localLeft remoteLeft }
  /-- Nobody reads the stats any more. -/
  | abandoned (index : Nat) (localStats remoteStats : List StreamStats)
      (pc : controller.pc = .forwarding localStats remoteStats) :
      ResultMove controller (.forward index false)
        (controller.finish (.returned (.error .sendStreamStatsError)))
  | done (pc : controller.pc = .forwarding [] []) :
      ResultMove controller .done (controller.finish (.returned (.ok ())))

theorem resultOf_cases (controller : Controller) (index : Nat) :
    controller.resultOf index = [] ∨
      ∃ result, controller.resultOf index = [(index, result)] ∧
        (controller.tasks[index]?).map Task.phase = some (.finished (.ok result)) := by
  unfold resultOf
  split
  · rename_i result phase
    exact .inr ⟨result, rfl, phase⟩
  · exact .inl rfl

theorem resultOf_of_phase {index : Nat} {result : StreamStats}
    (phase : (controller.tasks[index]?).map Task.phase = some (.finished (.ok result))) :
    controller.resultOf index = [(index, result)] := by
  rw [resultOf, phase]

theorem joins_of_event {event : ControllerEvent} (noJoin : event ≠ .join)
    (noCollect : ∀ id, event ≠ .collect id) : controller.joins event = [] := by
  cases event with
  | join => exact absurd rfl noJoin
  | collect id => exact absurd rfl (noCollect id)
  | _ => rfl

/-- Awaiting the handle of a terminated stream. -/
private theorem resultMove_of_join {id index : Nat} (pc : controller.pc = .joining id index)
    (step : controller.joinOne id index = some next) (move : Move controller next) :
    ResultMove controller .join next := by
  have looping : ¬controller.pc.Closing := by
    rw [pc]
    exact not_false
  have joins : controller.joins .join = controller.resultOf index := by
    simp only [Controller.joins, pc]
  unfold joinOne at step
  split at step
  · rename_i result phase
    cases step
    rw [afterTerminated_eq]
    exact .join id index result pc (resultOf_of_phase phase)
  · rename_i error phase
    cases step
    have silent : controller.joins .join = [] := by
      rw [joins, resultOf, phase]
    apply ResultMove.loop _ _ looping _ (kept_afterTerminated controller) silent move
    rw [afterTerminated_eq]
    simp only [afterTerminatedPc]
    split <;> exact not_false
  · rename_i phase
    cases step
    have silent : controller.joins .join = [] := by
      rw [joins, resultOf, phase]
    exact .fail _ _ _ rfl rfl ⟨rfl, rfl, rfl⟩ silent rfl (.inl rfl)
      ⟨by simp [pc], by simp [pc]⟩ fun closing => absurd closing looping
  · cases step

/-- Draining the handles at the end. -/
private theorem resultMove_of_collect {id : Nat} {exchange : Bool}
    (pc : controller.pc = .collecting exchange) (step : controller.collectOne id = some next) :
    ResultMove controller (.collect id) next := by
  have joins : controller.joins (.collect id) =
      (controller.workers.lookup id).elim [] controller.resultOf := rfl
  unfold collectOne at step
  split at step
  · cases step
  · rename_i index found
    rw [found, Option.elim_some] at joins
    split at step
    · rename_i result phase
      cases step
      exact .collect id index result exchange pc found (resultOf_of_phase phase)
    · rename_i error phase
      cases step
      apply ResultMove.drop _ id exchange pc
      rw [joins, resultOf, phase]
    · rename_i phase
      cases step
      apply ResultMove.drop _ id exchange pc
      rw [joins, resultOf, phase]
    · cases step

/-- Nothing goes wrong between the store of `ExchangeResults` and the collecting. -/
private theorem underway_of_step {event : ControllerEvent} {ending : Ending}
    (step : controller.controllerStep event = some next) (ended : next.pc = .ended ending) :
    controller.pc ≠ .loopHead ∧ controller.pc ≠ .matched .exchangeResults := by
  constructor
  · intro pc
    cases event with
    | turn =>
        simp only [controllerStep, pc, true_and, Option.ite_none_right_eq_some] at step
        rw [← Option.some.inj step.2] at ended
        cases ended
    | _ => simp [controllerStep, pc] at step
  · intro pc
    cases event with
    | act =>
        simp only [controllerStep, pc, act, Option.some.injEq] at step
        rw [← step] at ended
        cases ended
    | _ => simp [controllerStep, pc] at step

/-- Past the main loop somebody else is to blame for the end. -/
private theorem resultMove_of_failure {event : ControllerEvent}
    (closing : controller.pc.Closing) (ending : Ending) (silent : controller.joins event = [])
    (blamed : event.Breaks ∨ (controller.pc = .readingResults ∧ event.Strays)) :
    ResultMove controller event (controller.finish ending) := by
  have underway : controller.pc ≠ .loopHead ∧ controller.pc ≠ .matched .exchangeResults := by
    constructor
    · intro pc
      rw [pc] at closing
      exact closing
    · intro pc
      rw [pc] at closing
      exact closing
  exact .fail event _ ending rfl rfl ⟨rfl, rfl, rfl⟩ silent rfl (.inl rfl) underway
    fun _ => blamed

/-- One element of a list, and the others. -/
theorem perm_of_getElem? {α : Type} {list : List α} {index : Nat} {chosen : α}
    (found : list[index]? = some chosen) : list.Perm (chosen :: list.eraseIdx index) := by
  rcases List.getElem?_eq_some_iff.mp found with ⟨within, same⟩
  rw [← same]
  exact (List.getElem_cons_eraseIdx_perm within).symm

private theorem resultMove_of_forward {localStats remoteStats : List StreamStats} {index : Nat}
    {delivered : Bool} (pc : controller.pc = .forwarding localStats remoteStats)
    (step : controller.forwardOne localStats remoteStats index delivered = some next) :
    ResultMove controller (.forward index delivered) next := by
  unfold forwardOne at step
  cases delivered with
  | false =>
      simp only [Bool.false_eq_true, if_false] at step
      split at step
      · cases step
      · cases step
        exact .abandoned index localStats remoteStats pc
  | true =>
      cases localStats with
      | nil =>
          simp only [if_true] at step
          split at step
          · cases step
          · rename_i stats chosen
            cases step
            apply ResultMove.forward index stats [] remoteStats [] _ pc
            exact perm_of_getElem? chosen
      | cons first rest =>
          simp only [if_true] at step
          split at step
          · cases step
          · rename_i stats chosen
            cases step
            apply ResultMove.forward index stats (first :: rest) remoteStats _ remoteStats pc
            exact (perm_of_getElem? chosen).append_right remoteStats

/-- A map is sent, or the control connection fails. -/
private theorem resultMove_of_write {delivered : Bool} (closing : controller.pc.Closing)
    (step : controller.controllerStep (.write delivered) = some next) :
    ResultMove controller (.write delivered) next := by
  simp only [controllerStep] at step
  split at step
  · rename_i target pc
    rw [pc] at closing
    exact closing.elim
  · rename_i pc
    cases delivered with
    | true =>
        cases step
        exact .send pc
    | false =>
        cases step
        exact resultMove_of_failure closing _ rfl (.inl rfl)
  · rename_i remote pc
    cases delivered with
    | true =>
        cases step
        exact .answer remote pc
    | false =>
        cases step
        exact resultMove_of_failure closing _ rfl (.inl rfl)
  · cases step

/-- The client reads the map of the server, or something else. -/
private theorem resultMove_of_clientRead {outcome : Except Error ServerMessage}
    (closing : controller.pc.Closing)
    (step : controller.controllerStep (.clientRead outcome) = some next) :
    ResultMove controller (.clientRead outcome) next := by
  simp only [controllerStep] at step
  split at step
  · rename_i role
    split at step
    · rename_i message pc
      rw [pc] at closing
      exact closing.elim
    · rename_i remote pc
      cases step
      exact .read remote role pc
    · rename_i message other pc
      cases step
      exact resultMove_of_failure closing _ rfl (.inr ⟨pc, other⟩)
    · rename_i error pc
      rw [pc] at closing
      exact closing.elim
    · cases step
      exact resultMove_of_failure closing _ rfl (.inl trivial)
    · cases step
  · cases step

/-- The server reads the map of the client, or something else. -/
private theorem resultMove_of_serverRead {outcome : Except Error ClientMessage}
    (closing : controller.pc.Closing)
    (step : controller.controllerStep (.serverRead outcome) = some next) :
    ResultMove controller (.serverRead outcome) next := by
  simp only [controllerStep] at step
  split at step
  · rename_i role
    split at step
    · rename_i remote pc
      cases step
      exact .take remote role pc
    · rename_i message other pc
      cases step
      exact resultMove_of_failure closing _ rfl (.inr ⟨pc, other⟩)
    · cases step
      exact resultMove_of_failure closing _ rfl (.inl trivial)
    · cases step
  · cases step

/-- Past the main loop. -/
private theorem resultMove_of_closing {event : ControllerEvent}
    (closing : controller.pc.Closing) (step : controller.controllerStep event = some next) :
    ResultMove controller event next := by
  cases event with
  | collect id =>
      simp only [controllerStep] at step
      split at step
      · rename_i exchange pc
        exact resultMove_of_collect pc step
      · cases step
  | abandon id =>
      simp only [controllerStep] at step
      split at step
      · rename_i exchange pc
        unfold abandonOne at step
        split at step
        · cases step
        · split at step
          · cases step
          · cases step
            exact .drop _ id exchange pc rfl
      · cases step
  | collected =>
      simp only [controllerStep] at step
      split at step
      · rename_i exchange pc
        split at step
        · rename_i none
          cases step
          exact .collected exchange pc none
        · cases step
      · cases step
  | write delivered => exact resultMove_of_write closing step
  | clientRead outcome => exact resultMove_of_clientRead closing step
  | serverRead outcome => exact resultMove_of_serverRead closing step
  | forward index delivered =>
      simp only [controllerStep] at step
      split at step
      · rename_i localStats remoteStats pc
        exact resultMove_of_forward pc step
      · cases step
  | done =>
      simp only [controllerStep] at step
      split at step
      · rename_i pc
        cases step
        exact .done pc
      · cases step
  | start | turn | poll | recv | shutdown =>
      simp only [controllerStep] at step
      split at step
      · rename_i enabled
        simp only [enabled, Pc.Closing] at closing
      · cases step
  | act | store | join =>
      simp only [controllerStep] at step
      split at step
      · rename_i pc
        rw [pc] at closing
        exact closing.elim
      · cases step
  | connect outcome | reply outcome =>
      simp only [controllerStep] at step
      split at step
      · rename_i pc
        rw [pc] at closing
        exact closing.elim
      · rename_i pc
        rw [pc] at closing
        exact closing.elim
      · cases step

theorem resultMove_of_step {event : ControllerEvent}
    (step : controller.controllerStep event = some next) :
    ResultMove controller event next := by
  by_cases closing : controller.pc.Closing
  · exact resultMove_of_closing closing step
  · have move := move_of_controllerStep step
    by_cases join : event = .join
    · subst join
      simp only [controllerStep] at step
      split at step
      · rename_i id index pc
        exact resultMove_of_join pc step move
      · cases step
    · have kept := kept_of_step step closing join
      have silent : controller.joins event = [] := by
        apply joins_of_event join
        rintro id rfl
        simp only [controllerStep] at step
        split at step
        · rename_i exchange pc
          rw [pc] at closing
          exact closing trivial
        · cases step
      rcases move.looping closing with after | ⟨ending, ended⟩ | ⟨exchange, pc, stopped⟩
      · exact .loop event next closing after kept silent move
      · have ends := move.ends (alive_of_pc_ended ended)
        apply ResultMove.fail event next ending ended ends.state kept silent ends.workers
        · rcases ends.tasks with same | ⟨stream, added, -⟩
          · exact .inl same
          · exact .inr ⟨stream, added⟩
        · exact underway_of_step step ended
        · exact fun before => absurd before closing
      · rw [stopped]
        exact .stop event exchange pc silent

/-! ## The map and what has been joined -/

/-- A task that has ended with a result does not change. -/
def Settled (controller next : Controller) : Prop :=
  ∀ (index : Nat) (result : StreamStats),
    (controller.tasks[index]?).map Task.phase = some (.finished (.ok result)) →
    (next.tasks[index]?).map Task.phase = some (.finished (.ok result))

theorem settled_of_tasks (tasks : next.tasks = controller.tasks ∨
    ∃ stream, next.tasks = controller.tasks ++ [controller.newTask stream]) :
    controller.Settled next := by
  intro index result phase
  rcases tasks with same | ⟨stream, added⟩
  · rw [same]
    exact phase
  · cases found : controller.tasks[index]? with
    | none => simp [found] at phase
    | some task =>
        have within := (List.getElem?_eq_some_iff.mp found).1
        rw [added, List.getElem?_append_left within]
        exact phase

theorem TaskMove.settled {index : Nat} {event : TaskEvent}
    (move : TaskMove controller index event next) : controller.Settled next := by
  intro position result phase
  cases found : controller.tasks[position]? with
  | none => simp [found] at phase
  | some task =>
      rw [found, Option.map_some, Option.some.injEq] at phase
      rcases move.forward found with ⟨after, foundAfter, same | evolves⟩
      · rw [foundAfter, same, Option.map_some, phase]
      · cases evolves with
        | work event worker working moved same => simp [phase] at working
        | post result working pc => simp [phase] at working
        | finish result posted => simp [phase] at posted
        | panic working listening => simp [phase] at working

theorem Move.length_tasks_le (move : Move controller next) :
    controller.tasks.length ≤ next.tasks.length := by
  rcases move.tasks with same | ⟨stream, added⟩
  · rw [same]
  · rw [added, List.length_append]
    exact Nat.le_add_right _ _

/-- The map holds what has been joined, and nothing of it is still awaited. -/
structure Collected (joined : List (Nat × StreamStats)) (controller : Controller) :
    Prop where
  entries : controller.streamResults.entries.Perm (joined.map fun got => ⟨got.1, got.2⟩)
  ended : ∀ got ∈ joined,
    (controller.tasks[got.1]?).map Task.phase = some (.finished (.ok got.2))
  apart : ∀ id ∈ controller.streamResults, controller.workers.lookup id = none
  joining : ∀ id index, controller.pc = .joining id index →
    id = index ∧ index < controller.tasks.length ∧
      controller.workers.lookup id = none ∧ id ∉ controller.streamResults

variable {joined : List (Nat × StreamStats)}

theorem new_collected (build : Build) (perf : Perf) : (new build perf).Collected [] where
  entries := List.Perm.nil
  ended := by
    rintro got ⟨⟩
  apart := by
    intro id held
    exact absurd held (AList.notMem_empty id)
  joining := by
    rintro id index ⟨⟩

theorem Collected.lt (collected : controller.Collected joined) {id : Nat}
    (held : id ∈ controller.streamResults) : id < controller.tasks.length := by
  rcases List.mem_map.mp (AList.mem_keys.mp held) with ⟨entry, entryMem, rfl⟩
  rcases List.mem_map.mp (collected.entries.mem_iff.mp entryMem) with ⟨got, gotMem, rfl⟩
  have ended := collected.ended got gotMem
  cases found : controller.tasks[got.1]? with
  | none => simp [found] at ended
  | some task => exact (List.getElem?_eq_some_iff.mp found).1

/-- A step that gets no result and awaits none. -/
structure Past (controller next : Controller) : Prop where
  results : next.streamResults = controller.streamResults
  settled : controller.Settled next
  workers : ∀ id, controller.workers.lookup id = none → next.workers.lookup id = none
  pc : ∀ id index, next.pc ≠ .joining id index

theorem Collected.past (collected : controller.Collected joined) (past : controller.Past next) :
    next.Collected joined where
  entries := by
    rw [past.results]
    exact collected.entries
  ended := fun got gotMem => past.settled got.1 got.2 (collected.ended got gotMem)
  apart := by
    rw [past.results]
    exact fun id held => past.workers id (collected.apart id held)
  joining := fun id index waits => absurd waits (past.pc id index)

theorem past_forwardResults (controller : Controller) (remote : List StreamStats) :
    controller.Past (controller.forwardResults remote) := by
  unfold forwardResults
  split
  · exact ⟨rfl, fun _ _ phase => phase, fun _ gone => gone, by rintro _ _ ⟨⟩⟩
  · exact ⟨rfl, fun _ _ phase => phase, fun id _ => AList.lookup_empty id, by rintro _ _ ⟨⟩⟩

theorem past_afterCollect (controller : Controller) (exchange : Bool) :
    controller.Past (controller.afterCollect exchange) := by
  unfold afterCollect
  split
  · split <;> exact ⟨rfl, fun _ _ phase => phase, fun _ gone => gone, by rintro _ _ ⟨⟩⟩
  · exact past_forwardResults controller []

/-- What a step means for the results: it belongs to the main loop, it neither gets nor
awaits one, or it gets one. -/
inductive Gains (controller : Controller) (event : ControllerEvent) (next : Controller) :
    Prop where
  | loop (kept : controller.Kept next) (silent : controller.joins event = [])
      (move : Move controller next)
  | past (silent : controller.joins event = []) (past : controller.Past next)
  | result (id index : Nat) (result : StreamStats)
      (awaited : (controller.pc = .joining id index ∧ next.workers = controller.workers) ∨
        (controller.workers.lookup id = some index ∧
          next.workers = controller.workers.erase id))
      (ended : controller.resultOf index = [(index, result)])
      (joins : controller.joins event = [(index, result)])
      (results : next.streamResults = controller.streamResults.insert id result)
      (tasks : next.tasks = controller.tasks) (pc : ∀ id index, next.pc ≠ .joining id index)

theorem lookup_erase_eq_none {workers : AList fun _ : Nat => Nat} {id : Nat}
    (gone : workers.lookup id = none) (erased : Nat) :
    (workers.erase erased).lookup id = none := by
  by_cases same : id = erased
  · rw [same, AList.lookup_erase]
  · rw [AList.lookup_erase_ne same, gone]

theorem ResultMove.gains {event : ControllerEvent} (move : ResultMove controller event next) :
    Gains controller event next := by
  have without : (event ≠ .join) → (∀ id, event ≠ .collect id) → controller.Past next →
      Gains controller event next := fun noJoin noCollect past =>
    .past (joins_of_event noJoin noCollect) past
  cases move with
  | loop _ _ before after kept silent move => exact .loop kept silent move
  | stop _ exchange pc silent =>
      apply Gains.past silent
      exact ⟨rfl, fun _ _ phase => phase, fun _ gone => gone, by rintro _ _ ⟨⟩⟩
  | fail _ _ ending pc state kept silent workers tasks underway blamed =>
      apply Gains.past silent
      constructor
      · exact kept.results
      · exact settled_of_tasks tasks
      · intro id gone
        rw [workers]
        exact AList.lookup_empty id
      · intro id index waits
        rw [pc] at waits
        cases waits
  | join id index result pc ended =>
      apply Gains.result id index result _ ended
      · simp only [joins, pc, ended]
      · rfl
      · rfl
      · intro other position waits
        simp only [afterTerminatedPc] at waits
        split at waits <;> cases waits
      · exact .inl ⟨pc, rfl⟩
  | collect id index result exchange pc found ended =>
      apply Gains.result id index result _ ended
      · simp only [joins, found, Option.elim_some, ended]
      · rfl
      · rfl
      · intro other position waits
        simp only [pc] at waits
        cases waits
      · exact .inr ⟨found, rfl⟩
  | drop _ id exchange pc silent =>
      apply Gains.past silent
      constructor
      · rfl
      · exact fun _ _ phase => phase
      · exact fun _ gone => lookup_erase_eq_none gone id
      · intro other position waits
        simp only [pc] at waits
        cases waits
  | collected exchange pc none =>
      exact without (by simp) (by simp) (past_afterCollect controller exchange)
  | answer remote pc =>
      have past := past_forwardResults { controller with
        resultsSent := controller.resultsSent ++ [controller.streamResults] } (markPeer remote)
      exact without (by simp) (by simp) ⟨past.results, past.settled, past.workers, past.pc⟩
  | read remote role pc =>
      exact without (by simp) (by simp) (past_forwardResults controller (markPeer remote))
  | send | take | forward =>
      apply without (by simp) (by simp)
      exact ⟨rfl, fun _ _ phase => phase, fun _ gone => gone, by rintro _ _ ⟨⟩⟩
  | abandoned | done =>
      apply without (by simp) (by simp)
      exact ⟨rfl, fun _ _ phase => phase, fun id _ => AList.lookup_empty id,
        by rintro _ _ ⟨⟩⟩

/-- A result is got. -/
theorem Collected.gain (collected : controller.Collected joined) {id index : Nat}
    {result : StreamStats} (own : id = index) (fresh : id ∉ controller.streamResults)
    (ended : controller.resultOf index = [(index, result)])
    (results : next.streamResults = controller.streamResults.insert id result)
    (tasks : next.tasks = controller.tasks) (gone : next.workers.lookup id = none)
    (workers : ∀ id, controller.workers.lookup id = none → next.workers.lookup id = none)
    (pc : ∀ id index, next.pc ≠ .joining id index) :
    next.Collected (joined ++ [(index, result)]) where
  entries := by
    rw [results, AList.entries_insert_of_notMem fresh, List.map_append, own]
    exact (collected.entries.cons _).trans (List.perm_append_singleton _ _).symm
  ended := by
    intro got gotMem
    rw [tasks]
    rcases List.mem_append.mp gotMem with earlier | now
    · exact collected.ended got earlier
    · rw [List.mem_singleton.mp now]
      rcases controller.resultOf_cases index with none | ⟨other, same, phase⟩
      · rw [none] at ended
        cases ended
      · rw [same] at ended
        cases ended
        exact phase
  apart := by
    intro other held
    rw [results, AList.mem_insert] at held
    rcases held with same | earlier
    · rw [same]
      exact gone
    · exact workers other (collected.apart other earlier)
  joining := fun id index waits => absurd waits (pc id index)

/-- Whoever has ended with a result is not registered again. -/
theorem Registers.lookup_eq_none (registers : Registers controller next) {id : Nat}
    (gone : controller.workers.lookup id = none)
    (old : id ≠ controller.streamIndex.toNat) : next.workers.lookup id = none := by
  cases registers with
  | keeps tasks streamIndex workers =>
      cases found : next.workers.lookup id with
      | none => rfl
      | some index =>
          rw [workers id index found] at gone
          cases gone
  | adds stream tasks streamIndex workers => rw [workers, AList.lookup_insert_ne old, gone]
  | ends ended workers tasks =>
      rw [workers]
      exact AList.lookup_empty id

theorem Collected.move (collected : controller.Collected joined)
    (registered : controller.Registered) (few : controller.tasks.length < UInt16.size)
    {event : ControllerEvent} (move : ResultMove controller event next) :
    next.Collected (joined ++ controller.joins event) := by
  have own : ∀ id index, controller.workers.lookup id = some index →
      id = index ∧ index < controller.tasks.length := by
    intro id index found
    rcases registered.position id index found with ⟨within, same⟩
    rw [← same, Nat.mod_eq_of_lt (within.trans few)]
    exact ⟨rfl, within⟩
  have missing : ∀ id index, controller.workers.lookup id = some index →
      id ∉ controller.streamResults := by
    intro id index found held
    rw [collected.apart id held] at found
    cases found
  cases move.gains with
  | loop kept silent move =>
      have settled := settled_of_tasks move.tasks
      rw [silent, List.append_nil]
      constructor
      · rw [kept.results]
        exact collected.entries
      · exact fun got gotMem => settled got.1 got.2 (collected.ended got gotMem)
      · rw [kept.results]
        intro id held
        apply move.registers.lookup_eq_none (collected.apart id held)
        rw [registered.counter move.alive, Nat.mod_eq_of_lt few]
        exact Nat.ne_of_lt (collected.lt held)
      · intro id index pc
        have source := move.source
        rw [pc] at source
        rcases source with ⟨found, workers⟩
        rcases own id index found with ⟨same, within⟩
        rw [workers, AList.lookup_erase, kept.results]
        exact ⟨same, within.trans_le move.length_tasks_le, rfl, missing id index found⟩
  | past silent past =>
      rw [silent, List.append_nil]
      exact collected.past past
  | result id index result awaited ended joins results tasks noPc =>
      rw [joins]
      rcases awaited with ⟨pc, workers⟩ | ⟨found, workers⟩
      · rcases collected.joining id index pc with ⟨same, within, gone, fresh⟩
        apply collected.gain same fresh ended results tasks _ _ noPc
        · rw [workers]
          exact gone
        · rw [workers]
          exact fun _ gone => gone
      · apply collected.gain (own id index found).1 (missing id index found) ended results
          tasks _ _ noPc
        · rw [workers]
          exact AList.lookup_erase _ _
        · rw [workers]
          exact fun _ gone => lookup_erase_eq_none gone id

/-- The tasks move on by themselves. -/
theorem Collected.taskMove (collected : controller.Collected joined) {index : Nat}
    {event : TaskEvent} (move : TaskMove controller index event next) :
    next.Collected joined := by
  have results : next.streamResults = controller.streamResults := by
    cases move <;> rfl
  have settled := move.settled
  have frame := move.frame
  constructor
  · rw [results]
    exact collected.entries
  · exact fun got gotMem => settled got.1 got.2 (collected.ended got gotMem)
  · rw [results, frame.workers]
    exact collected.apart
  · rw [frame.pc, frame.length, frame.workers, results]
    exact collected.joining

end Controller

end Iperf
