import Iperf.Client.Core

/-!
# The streams of a client

The ids of the registered streams count from zero, so the first ones are the
sending ones.  A loop over the needed streams that meets no error opens all of
them.
-/

namespace Iperf

open Channel Transition

theorem countP_range_lt (bound count : Nat) :
    (List.range count).countP (fun id => decide (id < bound)) = min bound count := by
  induction count with
  | zero => simp
  | succ count ih =>
      rw [List.range_succ, List.countP_append, ih, List.countP_singleton]
      by_cases below : count < bound
      · simp only [below, decide_true, if_true]
        omega
      · simp only [below, decide_false, Bool.false_eq_true, if_false]
        omega

namespace Controller

variable {controller : Controller}

/-- With few streams the direction of each follows from its position. -/
theorem Registered.map_isSending (registered : controller.Registered)
    (few : controller.tasks.length ≤ UInt16.size) :
    controller.tasks.map (fun task => task.worker.isSending) =
      (List.range controller.tasks.length).map controller.perf.sendsOn := by
  apply List.ext_getElem?
  intro index
  rw [List.getElem?_map, List.getElem?_map]
  cases found : controller.tasks[index]? with
  | none =>
      have beyond := List.getElem?_eq_none_iff.mp found
      rw [List.getElem?_eq_none (by rwa [List.length_range])]
      rfl
  | some task =>
      have within := (List.getElem?_eq_some_iff.mp found).1
      obtain ⟨number, sending⟩ := registered.identity index task found
      rw [Nat.mod_eq_of_lt (within.trans_le few)] at number
      rw [List.getElem?_range within]
      simp only [Option.map_some, sending, number]

/-- With few streams the ids are the positions. -/
theorem Registered.map_id (registered : controller.Registered)
    (few : controller.tasks.length ≤ UInt16.size) :
    controller.tasks.map (fun task => task.worker.id) =
      List.range controller.tasks.length := by
  apply List.ext_getElem?
  intro index
  rw [List.getElem?_map]
  cases found : controller.tasks[index]? with
  | none =>
      have beyond := List.getElem?_eq_none_iff.mp found
      rw [List.getElem?_eq_none (by rwa [List.length_range])]
      rfl
  | some task =>
      have within := (List.getElem?_eq_some_iff.mp found).1
      have number := (registered.identity index task found).1
      rw [Nat.mod_eq_of_lt (within.trans_le few)] at number
      rw [List.getElem?_range within, Option.map_some, number]

/-- Registration succeeds while the counter does not overflow. -/
theorem createAndRegisterStreamWorker_eq (sender : controller.statsSender = true)
    (sum : controller.build.addU16 controller.streamIndex 1 =
      some (controller.streamIndex + 1)) (stream : TcpStream) :
    controller.createAndRegisterStreamWorker stream = controller.register stream := by
  unfold createAndRegisterStreamWorker
  rw [if_pos sender]
  simp only [sum]
  rfl

end Controller

namespace Client

open Controller

variable {client next : Controller}

/-- A client sends on the streams whose ids are below its number of sending
streams. -/
theorem sendsOn_client {perf : Perf} (role : perf.role = .client) :
    perf.sendsOn = fun id => decide (id < perf.numSendStreams.toNat) := by
  funext id
  simp [Perf.sendsOn, role]

theorem Opening.countP_isSending (opening : Opening client) :
    client.tasks.countP (fun task => task.worker.isSending) =
      min client.perf.numSendStreams.toNat client.tasks.length := by
  have few : client.tasks.length ≤ UInt16.size :=
    (opening.bound.trans_lt client.perf.neededStreams_lt).le
  have directions := opening.registered.map_isSending few
  have counted := congrArg (List.countP id) directions
  rw [List.countP_map, List.countP_map, sendsOn_client opening.role] at counted
  exact counted.trans (countP_range_lt _ _)

/-! ## The loop over the streams -/

/-- The server is reached and asks for streams. -/
def joining (cookie : String) : List ClientEvent :=
  [.controller .start, .controller .turn, .controller .act, .controller .poll,
    .controller (.clientRead (.ok (.setState (.createStreams cookie)))), .controller .store,
    .controller .turn, .controller .act]

/-- One stream is opened and welcomed. -/
def connection (stream : TcpStream) : List ClientEvent :=
  [.controller (.connect (.ok stream)), .controller (.reply (.ok .welcome))]

/-- From the head of the loop as many connections as are missing lead out of it. -/
theorem run_createStreamsLoop (total : UInt16) (streams : List TcpStream)
    (missing : client.streamIndex.toNat + streams.length = total.toNat)
    (sender : client.statsSender = true) :
    ∃ next, run Client.step (client.createStreamsLoop total) (streams.flatMap connection) =
        some next ∧
      next.pc = .polling ∧ next.oldState = client.oldState ∧
      next.tasks.map Task.stream = client.tasks.map Task.stream ++ streams := by
  induction streams generalizing client with
  | nil =>
      have done : ¬ client.streamIndex < total := by
        rw [UInt16.lt_iff_toNat_lt]
        simp only [List.length_nil] at missing
        omega
      simp only [createStreamsLoop, done, if_false]
      exact ⟨_, rfl, rfl, rfl, (List.append_nil _).symm⟩
  | cons stream streams ih =>
      rw [List.length_cons] at missing
      have small := total.toNat_lt
      have more : client.streamIndex < total := by
        rw [UInt16.lt_iff_toNat_lt]
        omega
      have fits : client.streamIndex.toNat + (1 : UInt16).toNat < UInt16.size := by
        simp only [UInt16.toNat_one, UInt16.size]
        omega
      obtain ⟨sum, exact⟩ := client.build.addU16_of_fits fits
      have opens : run Client.step (client.createStreamsLoop total) (connection stream) =
          some ((client.register stream).createStreamsLoop total) := by
        have connects : Client.step (client.createStreamsLoop total)
            (.controller (.connect (.ok stream))) =
            some { client with pc := .greeting total stream } := by
          simp only [createStreamsLoop, more, if_true, Client.step, controllerStep]
        have registers : createAndRegisterStreamWorker
            { client with pc := .greeting total stream } stream =
            { client.register stream with pc := .greeting total stream } :=
          @createAndRegisterStreamWorker_eq { client with pc := .greeting total stream }
            sender sum stream
        rw [connection, run_cons_of_step connects, run_singleton]
        simp only [Client.step, controllerStep, registers]
        rfl
      have counter : (client.register stream).streamIndex.toNat + streams.length =
          total.toNat := by
        rw [show (client.register stream).streamIndex = client.streamIndex + 1 from rfl, exact,
          UInt16.toNat_one]
        omega
      obtain ⟨next, finished, pc, oldState, opened⟩ := ih counter sender
      refine ⟨next, ?_, pc, oldState, ?_⟩
      · rw [List.flatMap_cons]
        exact run_append_of_run opens finished
      · rw [opened]
        simp [register, newTask]

/-- A client whose total does not overflow opens the streams it needs, if every
connection is welcomed. -/
theorem run_joining (build : Build) (cookie : String) (params : Parameters)
    (fits : params.totalStreams < UInt16.size) (streams : List TcpStream)
    (all : streams.length = params.totalStreams) :
    ∃ client, run Client.step (new build cookie params)
        (joining cookie ++ streams.flatMap connection) = some client ∧
      Opened client ∧ client.tasks.map Task.stream = streams := by
  let asked : Controller := { new build cookie params with
    state := .createStreams cookie
    oldState := .createStreams cookie }
  have sum : asked.perf.numSendStreams.toNat + asked.perf.numReceiveStreams.toNat =
      params.totalStreams :=
    Perf.totalStreams_newWithStatsReceiver cookie .client params
  obtain ⟨needed, exact⟩ := build.addU16_of_fits (sum.trans_lt fits)
  have loops : run Client.step (new build cookie params) (joining cookie) =
      some (asked.createStreamsLoop
        (asked.perf.numSendStreams + asked.perf.numReceiveStreams)) := by
    have acts : run Client.step (new build cookie params) (joining cookie) =
        some (Controller.createStreams { asked with
          oldState := .start, pc := .matched (.createStreams cookie) }
          (.createStreams cookie)) := rfl
    rw [acts, Controller.createStreams, totalNeededStreams]
    simp only [asked] at needed
    simp only [asked, new, Controller.new] at needed ⊢
    rw [needed]
    rfl
  have missing : asked.streamIndex.toNat + streams.length =
      (asked.perf.numSendStreams + asked.perf.numReceiveStreams).toNat := by
    rw [exact, sum, all]
    exact Nat.zero_add _
  obtain ⟨client, finished, polling, oldState, opened⟩ :=
    run_createStreamsLoop _ streams missing rfl
  refine ⟨client, run_append_of_run loops finished, ⟨⟨cookie, oldState⟩, .inl polling⟩, ?_⟩
  rw [opened]
  rfl

end Client

end Iperf
