import Iperf.Controller.Registry

/-!
# The client

The client runs the same controller as the server, but nobody else locks its
test state or sends to its mailbox.  Asked for streams it opens one connection
after the other, until as many are registered as the test needs.
-/

namespace Iperf

open Channel Transition

inductive ClientEvent where
  | controller (event : ControllerEvent)
  | task (index : Nat) (event : TaskEvent)
  | ctrlC

/-- The total a `createStreams` in progress aims at. -/
def Pc.opens : Pc → Option UInt16
  | .connecting total => some total
  | .greeting total _ => some total
  | _ => none

namespace Client

open Controller

def new (build : Build) (cookie : String) (params : Parameters) : Controller :=
  .new build (Perf.newWithStatsReceiver cookie .client params)

/-- One step of the client. -/
def step (client : Controller) : ClientEvent → Option Controller
  | .controller event => client.controllerStep event
  | .task index event => client.taskStep index event
  | .ctrlC => client.step .ctrlC

/-- The outcomes of one step of the client. -/
inductive Move (client : Controller) : ClientEvent → Controller → Prop where
  | controller (event : ControllerEvent) (next : Controller)
      (move : Controller.Move client next) : Move client (.controller event) next
  | task (index : Nat) (event : TaskEvent) (next : Controller)
      (move : TaskMove client index event next) : Move client (.task index event) next
  | ctrlC (quiet : client.shutdown = .quiet) :
      Move client .ctrlC { client with shutdown := .signalled }

variable {client next : Controller} {event : ClientEvent}

/-- Every step of the client is one of the listed moves. -/
theorem move_of_step (step : Client.step client event = some next) :
    Move client event next := by
  cases event with
  | controller event => exact .controller event next (move_of_controllerStep step)
  | task index event => exact .task index event next (move_of_taskStep step)
  | ctrlC =>
      simp only [Client.step, Controller.step] at step
      split at step
      · rename_i quiet
        cases step
        exact .ctrlC quiet
      · simp at step

/-- The client has asked for streams, and its loop over them is done. -/
def Opened (client : Controller) : Prop :=
  (∃ cookie, client.oldState = .createStreams cookie) ∧
    (client.pc = .polling ∨ client.pc = .selecting)

/-- How many streams the client has opened. -/
structure Opening (client : Controller) : Prop where
  role : client.perf.role = .client
  registered : client.Registered
  bound : client.tasks.length ≤ client.perf.neededStreams
  opening : ∀ total, client.pc.opens = some total →
    total.toNat = client.perf.neededStreams ∧
      client.tasks.length < client.perf.neededStreams
  opened : Opened client → client.tasks.length = client.perf.neededStreams

theorem new_opening (build : Build) (cookie : String) (params : Parameters) :
    Opening (new build cookie params) where
  role := rfl
  registered := new_registered build _
  bound := Nat.zero_le _
  opening := fun total opens => by simp [new, Controller.new, Pc.opens] at opens
  opened := fun opened => by simp [Opened, new, Controller.new] at opened

private theorem Opening.keep (opening : Opening client) (registered : next.Registered)
    (perf : next.perf = client.perf) (tasks : next.tasks.length = client.tasks.length)
    (opens : next.pc.opens = none)
    (opened : Opened next → next.tasks.length = client.perf.neededStreams) :
    Opening next where
  role := perf ▸ opening.role
  registered := registered
  bound := by
    rw [perf, tasks]
    exact opening.bound
  opening := fun total aims => by simp [opens] at aims
  opened := fun done => perf ▸ opened done

theorem Opening.counter (opening : Opening client) (running : client.alive = true) :
    client.streamIndex.toNat = client.tasks.length := by
  have few : client.tasks.length < UInt16.size :=
    opening.bound.trans_lt client.perf.neededStreams_lt
  rw [opening.registered.counter running, Nat.mod_eq_of_lt few]

/-- One more stream: the loop goes on, or the total is reached. -/
private theorem Opening.greeted (opening : Opening client) (total : UInt16)
    (stream : TcpStream) (pc : client.pc = .greeting total stream)
    (registered : (show Controller from { client.register stream with
      pc := if client.streamIndex + 1 < total then .connecting total else .polling
      }).Registered) :
    Opening { client.register stream with
      pc := if client.streamIndex + 1 < total then .connecting total else .polling } := by
  have aims := opening.opening total (by rw [pc]; rfl)
  have running : client.alive = true := by simp [alive, pc]
  have counter := opening.counter running
  have added : (client.register stream).tasks.length = client.tasks.length + 1 :=
    List.length_append
  have small := total.toNat_lt
  have succ : (client.streamIndex + 1).toNat = client.tasks.length + 1 := by
    rw [UInt16.toNat_add, counter, UInt16.toNat_one]
    apply Nat.mod_eq_of_lt
    omega
  have less : client.streamIndex + 1 < total ↔ client.tasks.length + 1 < total.toNat := by
    rw [UInt16.lt_iff_toNat_lt, succ]
  by_cases more : client.streamIndex + 1 < total
  · rw [if_pos more] at registered ⊢
    constructor
    · exact opening.role
    · exact registered
    · exact added.trans_le aims.2
    · intro other opens
      cases opens
      constructor
      · exact aims.1
      · rw [show (client.register stream).tasks.length = _ from added]
        exact aims.1 ▸ less.mp more
    · rintro ⟨-, polling | selecting⟩
      · cases polling
      · cases selecting
  · rw [if_neg more] at registered ⊢
    constructor
    · exact opening.role
    · exact registered
    · exact added.trans_le aims.2
    · intro other opens
      cases opens
    · intro _
      have enough := mt less.mpr more
      have reached : client.tasks.length + 1 = client.perf.neededStreams := by omega
      exact added.trans reached

theorem Opening.controllerMove (opening : Opening client)
    (move : Controller.Move client next) : Opening next := by
  have registered := opening.registered.move move
  have running := move.alive
  cases move with
  | greeted total stream pc => exact opening.greeted total stream pc registered
  | pass state pc loaded initial exchange terminate opened =>
      apply opening.keep registered rfl rfl rfl
      rintro ⟨⟨cookie, asked⟩, -⟩
      obtain ⟨total, needed, enough⟩ := opened opening.role cookie asked
      have total' := totalNeededStreams_eq needed
      rw [UInt16.lt_iff_toNat_lt, opening.counter running] at enough
      have bound := opening.bound
      simp only
      omega
  | connect cookie total pc role needed more =>
      have total' := totalNeededStreams_eq needed
      rw [UInt16.lt_iff_toNat_lt, opening.counter running, total'] at more
      constructor
      · exact role
      · exact registered
      · exact opening.bound
      · intro other opens
        cases opens
        exact ⟨total', more⟩
      · rintro ⟨-, polling | selecting⟩
        · cases polling
        · cases selecting
  | greet total stream pc =>
      constructor
      · exact opening.role
      · exact registered
      · exact opening.bound
      · intro other opens
        cases opens
        exact opening.opening total (by rw [pc]; rfl)
      · rintro ⟨-, polling | selecting⟩
        · cases polling
        · cases selecting
  | poll pc =>
      apply opening.keep registered rfl rfl rfl
      rintro ⟨asked, -⟩
      exact opening.opened ⟨asked, .inl pc⟩
  | pollSignal mailbox lost pc signalled posts =>
      apply opening.keep registered rfl rfl rfl
      rintro ⟨asked, -⟩
      exact opening.opened ⟨asked, .inl pc⟩
  | startLoad pc transition listener =>
      apply opening.keep registered rfl rfl rfl
      rintro ⟨⟨cookie, asked⟩, -⟩
      cases asked
  | close next closes =>
      have settled := closes.after
      refine opening.keep registered closes.perf (congrArg List.length closes.tasks) ?_ ?_
      · cases pc : next.pc <;> simp_all [Pc.Closing, Pc.opens]
      · rintro ⟨-, polling | selecting⟩
        · simp [polling, Pc.Closing] at settled
        · simp [selecting, Pc.Closing] at settled
  | finish next ends =>
      obtain ⟨ending, pc⟩ := ends.pc
      constructor
      · exact ends.perf ▸ opening.role
      · exact registered
      · rw [ends.perf]
        rcases ends.tasks with same | ⟨stream, added, ⟨total, greeting⟩ | ⟨-, server, -⟩⟩
        · rw [same]
          exact opening.bound
        · rw [added, List.length_append]
          exact (opening.opening total (by rw [greeting]; rfl)).2
        · rw [opening.role] at server
          cases server
      · intro total opens
        simp [pc, Pc.opens] at opens
      · rintro ⟨-, polling | selecting⟩
        · simp [pc] at polling
        · simp [pc] at selecting
  | recvCreate stream mailbox total pc server head needed =>
      rw [opening.role] at server
      cases server
  | createStreams pc server =>
      rw [opening.role] at server
      cases server
  | stop exchange pc => exact opening.keep registered rfl rfl rfl (by simp [Opened, stopWorkers])
  | start | turn | recvTerminated | serverSets | serverSays | announce | store =>
      exact opening.keep registered rfl rfl rfl (by simp [Opened])
  | recvStray id mailbox pc head missing =>
      rw [afterTerminatedPc_client opening.role] at registered ⊢
      exact opening.keep registered rfl rfl rfl (by simp [Opened])
  | join id index results task pc found ended =>
      rw [afterTerminatedPc_client opening.role] at registered ⊢
      exact opening.keep registered rfl rfl rfl (by simp [Opened])
  | recvTerminate mailbox pc head =>
      rw [setStatePc_client opening.role] at registered ⊢
      exact opening.keep registered rfl rfl rfl (by simp [Opened])
  | shutdown pc signalled =>
      rw [setStatePc_client opening.role] at registered ⊢
      exact opening.keep registered rfl rfl rfl (by simp [Opened])

theorem Opening.step (opening : Opening client) (step : Client.step client event = some next) :
    Opening next := by
  cases move_of_step step with
  | controller event next move => exact opening.controllerMove move
  | task index event next move =>
      have frame := move.frame
      constructor
      · exact frame.perf ▸ opening.role
      · exact opening.registered.taskMove move
      · rw [frame.perf, frame.length]
        exact opening.bound
      · rw [frame.pc, frame.perf, frame.length]
        exact opening.opening
      · rw [Opened, frame.pc, frame.perf, frame.length, frame.oldState]
        exact opening.opened
  | ctrlC quiet =>
      constructor
      · exact opening.role
      · exact opening.registered.outside (outside_of_fields _ _ _ _ _)
          (fun _ idMem => idMem) (fun _ idMem => idMem) (fun _ messageMem => messageMem)
      · exact opening.bound
      · exact opening.opening
      · exact opening.opened

theorem opening_of_reachable {build : Build} {cookie : String} {params : Parameters}
    (reachable : Reachable Client.step (new build cookie params) client) : Opening client :=
  reachable.invariant Opening (fun _ _ _ opening step => opening.step step)
    (new_opening build cookie params)

theorem perf_of_step (step : Client.step client event = some next) :
    next.perf = client.perf := by
  cases move_of_step step with
  | controller event next move => exact move.perf
  | task index event next move => exact move.frame.perf
  | ctrlC quiet => rfl

theorem locked_of_step (step : Client.step client event = some next) :
    next.locked = client.locked := by
  cases move_of_step step with
  | controller event next move => exact move.locked
  | task index event next move => exact move.frame.locked
  | ctrlC quiet => rfl

theorem perf_of_reachable {source : Controller}
    (reachable : Reachable Client.step source client) : client.perf = source.perf :=
  reachable.invariant (fun client => client.perf = source.perf)
    (fun _ _ _ same step => (perf_of_step step).trans same) rfl

end Client

end Iperf
