import Iperf.Client.Streams
import Iperf.Server.Surplus

/-!
# The number of streams of a test

The total is computed in sixteen bits, and the server compares it with the
number of registered streams only when it registers one.  Both go well unless
the total does not fit or is zero.
-/

namespace Iperf

open Channel Transition

/-- The total of the parameters fits in sixteen bits exactly if twice the number
of parallel streams does, where both directions are asked for. -/
theorem Parameters.totalStreams_lt_iff (params : Parameters) :
    params.totalStreams < UInt16.size ↔
      (params.direction = .bidirectional → 2 * params.parallel.toNat < UInt16.size) := by
  have bound := params.parallel.toNat_lt
  cases direction : params.direction with
  | bidirectional => simp [totalStreams, direction]
  | clientToServer | serverToClient => simpa [totalStreams, direction] using bound

theorem Parameters.totalStreams_pos_iff (params : Parameters) :
    0 < params.totalStreams ↔ 0 < params.parallel.toNat := by
  cases direction : params.direction <;> simp [totalStreams, direction]

namespace Server

variable {json : Json} {server next : Server} {event : ServerEvent}

/-- The server waits for streams: it is in `CreateStreams` with nothing to do,
and no connection is being dealt with. -/
structure Sitting (server : Server) : Prop where
  state : ∃ cookie, server.test.state = .createStreams cookie
  selecting : server.test.pc = .selecting
  mailbox : server.test.mailbox.items = []
  idle : server.accept = .idle

/-- Before the load runs, no more streams are registered than the test needs. -/
structure Gathering (server : Server) : Prop where
  sound : server.Sound
  tallied : server.test.tasks.length < UInt16.size → server.Tallied
  bound : server.test.beforeLoad →
    server.test.tasks.length ≤ server.test.perf.neededStreams

theorem new_gathering (build : Build) {perf : Perf} (role : perf.role = .server) :
    (new build perf).Gathering where
  sound := new_sound build role
  tallied := fun _ => ⟨new_sound build role, Controller.new_counted build perf, [], .start, rfl⟩
  bound := fun _ => Nat.zero_le _

/-- While the controller waits for the streams of a test, some are missing. -/
theorem Tallied.missing (tallied : server.Tallied) (before : server.test.beforeLoad)
    (selecting : server.test.pc = .selecting) (needed : 0 < server.test.perf.neededStreams) :
    server.test.tasks.length < server.test.perf.neededStreams := by
  have short := tallied.counted.short
  simp only [selecting, Pc.Closing, not_false_eq_true, Pc.CompletesStreams, false_or,
    forall_const] at short
  rcases short before with less | none
  · exact less
  · exact absurd none needed.ne'

private theorem Gathering.bound_step (gathering : server.Gathering)
    (needed : 0 < server.test.perf.neededStreams)
    (step : server.step json event = some next) (before : next.test.beforeLoad) :
    next.test.tasks.length ≤ next.test.perf.neededStreams := by
  rw [perf_of_step step]
  have phased := gathering.sound.phased.test
  cases move_of_step step with
  | controller event test move =>
      have earlier := phased.beforeLoad_move move before
      have bound := gathering.bound earlier
      by_cases registers : test.tasks.length = server.test.tasks.length
      · exact registers ▸ bound
      · obtain ⟨selecting, length⟩ := selecting_of_registers phased move registers
        have tallied := gathering.tallied (bound.trans_lt server.test.perf.neededStreams_lt)
        have missing := tallied.missing earlier selecting needed
        exact length.trans_le missing
  | task index event test move =>
      have frame := move.frame
      unfold Controller.beforeLoad at before
      rw [frame.state] at before
      exact frame.length ▸ gathering.bound before
  | ctrlC quiet => exact gathering.bound before
  | accept event next move =>
      have outside := move.outside
      unfold Controller.beforeLoad at before
      rw [outside.state] at before
      exact outside.tasks ▸ gathering.bound before

theorem Gathering.step (gathering : server.Gathering)
    (needed : 0 < server.test.perf.neededStreams)
    (step : server.step json event = some next) : next.Gathering where
  sound := gathering.sound.step step
  tallied := fun few =>
    (gathering.tallied ((tasks_length_le step).trans_lt few)).step few step
  bound := gathering.bound_step needed step

/-- A server that needs streams never sits with all of them registered. -/
theorem sitting_missing {build : Build} {perf : Perf} (role : perf.role = .server)
    (needed : 0 < perf.neededStreams)
    (reachable : Reachable (Server.step json) (new build perf) server)
    (sitting : server.Sitting) : server.test.tasks.length < perf.neededStreams := by
  have same := perf_of_reachable reachable
  have gathering : server.Gathering ∧ server.test.perf = perf :=
    reachable.invariant (fun server => server.Gathering ∧ server.test.perf = perf)
      (fun source event target ⟨gathering, same⟩ step =>
        ⟨gathering.step (same ▸ needed) step, (perf_of_step step).trans same⟩)
      ⟨new_gathering build role, rfl⟩
  have before : server.test.beforeLoad := .inr sitting.state
  have bound := gathering.1.bound before
  have tallied := gathering.1.tallied (bound.trans_lt server.test.perf.neededStreams_lt)
  rw [← same]
  exact tallied.missing before sitting.selecting (same ▸ needed)

/-- A server sits as soon as it has asked for streams. -/
theorem sitting_opening (json : Json) (build : Build) (cookie : String)
    (params : Parameters) :
    ∃ server, run (Server.step json)
        (new build (Perf.newWithStatsReceiver cookie .server params)) opening = some server ∧
      server.Sitting ∧ server.test.tasks = [] :=
  ⟨_, rfl, ⟨⟨cookie, rfl⟩, rfl, rfl, rfl⟩, rfl⟩

end Server

/-- A test has the streams its parameters ask for: the total is computed without
overflow, a client leaves its loop with exactly that many streams, the right
number of which are sending, and can do so, and a server with all its streams
does not wait for more. -/
structure Served (json : Json) (build : Build) (cookie : String) (params : Parameters) :
    Prop where
  total : ∀ role, ∀ controller : Controller, controller.build = build →
    controller.perf = Perf.newWithStatsReceiver cookie role params →
    ∃ total, controller.totalNeededStreams = some total ∧
      total.toNat = params.totalStreams
  opened : ∀ client, Reachable Client.step (Client.new build cookie params) client →
    Client.Opened client → client.tasks.length = params.totalStreams ∧
      client.tasks.countP (fun task => task.worker.isSending) =
        client.perf.numSendStreams.toNat
  opens : ∀ streams : List TcpStream, streams.length = params.totalStreams →
    ∃ client, Reachable Client.step (Client.new build cookie params) client ∧
      Client.Opened client ∧ client.tasks.map Task.stream = streams
  leaves : ∀ server, Reachable (Server.step json)
      (Server.new build (Perf.newWithStatsReceiver cookie .server params)) server →
    server.Sitting → server.test.tasks.length < params.totalStreams

private theorem served_of_fits (json : Json) (build : Build) (cookie : String)
    {params : Parameters} (positive : 0 < params.totalStreams)
    (fits : params.totalStreams < UInt16.size) : Served json build cookie params := by
  have total : ∀ role, (Perf.newWithStatsReceiver cookie role params).totalStreams =
      params.totalStreams :=
    fun role => Perf.totalStreams_newWithStatsReceiver cookie role params
  have needed : ∀ role, (Perf.newWithStatsReceiver cookie role params).neededStreams =
      params.totalStreams := fun role =>
    (Perf.neededStreams_of_fits ((total role).trans_lt fits)).trans (total role)
  constructor
  · intro role controller sameBuild samePerf
    obtain ⟨sum, exact⟩ := build.addU16_of_fits ((total role).trans_lt fits)
    rw [Controller.totalNeededStreams, sameBuild, samePerf]
    exact ⟨_, sum, exact.trans (total role)⟩
  · intro client reachable opened
    have opening := Client.opening_of_reachable reachable
    have perf : client.perf = Perf.newWithStatsReceiver cookie .client params :=
      Client.perf_of_reachable reachable
    have all := opening.opened opened
    have sending := opening.countP_isSending
    rw [perf] at all sending
    rw [all, needed .client, ← total .client] at sending
    constructor
    · exact all.trans (needed .client)
    · rw [sending, perf]
      exact Nat.min_eq_left (Nat.le_add_right _ _)
  · intro streams all
    obtain ⟨client, finished, opened, registered⟩ :=
      Client.run_joining build cookie params fits streams all
    exact ⟨client, ⟨_, finished⟩, opened, registered⟩
  · intro server reachable sitting
    rw [← needed .server] at positive ⊢
    exact Server.sitting_missing rfl positive reachable sitting

/-- A test has the streams its parameters ask for exactly if they ask for at
least one, and for no more than sixteen bits can count. -/
theorem streams_as_asked (json : Json) (build : Build) (cookie : String)
    (params : Parameters) :
    Served json build cookie params ↔
      0 < params.parallel.toNat ∧
        (params.direction = .bidirectional → 2 * params.parallel.toNat < UInt16.size) := by
  rw [← params.totalStreams_pos_iff, ← params.totalStreams_lt_iff]
  constructor
  · intro served
    constructor
    · obtain ⟨server, finished, sitting, none⟩ :=
        Server.sitting_opening json build cookie params
      have missing := served.leaves server ⟨_, finished⟩ sitting
      exact Nat.zero_lt_of_lt missing
    · obtain ⟨total, -, exact⟩ := served.total .client (Client.new build cookie params) rfl rfl
      rw [← exact]
      exact total.toNat_lt
  · rintro ⟨positive, fits⟩
    exact served_of_fits json build cookie positive fits

/-- A test without streams waits for ever, and one of 32768 streams each way is
taken for such a test, or ends with a panic. -/
theorem extreme_parallel_unserved :
    (∃ server, Reachable (Server.step (.ofCookie "c")) (Server.sample 0) server ∧
      server.Sitting ∧ server.test.tasks.length = 0) ∧
    let params := Parameters.fromOpts { parallel := 32768, bidir := true }
    params.totalStreams = 65536 ∧
      (Client.new ⟨false, true⟩ "c" params).totalNeededStreams = some 0 ∧
      (Client.new ⟨true, true⟩ "c" params).totalNeededStreams = none := by
  constructor
  · obtain ⟨server, finished, sitting, none⟩ := Server.sitting_opening (.ofCookie "c")
      ⟨true, true⟩ "c" (.fromOpts { parallel := 0 })
    exact ⟨server, ⟨_, finished⟩, sitting, congrArg List.length none⟩
  · exact ⟨rfl, rfl, rfl⟩

end Iperf
