import Iperf.Host.Turn

/-!
# What each test is asked for

A test gets the cookie and the parameters that are read on its connection.  The two reads
are some steps apart and bytes may arrive in between, which do not change what has been
read before.
-/

namespace Iperf

open Channel Transition

/-- What is asked for on a connection: the cookie of its `Hello`, and the parameters behind
it. -/
def Inbound.asks (json : Json) (inbound : Inbound) : Option Perf :=
  match readCookie json inbound.peer, serverReadMessage json (inbound.peer.rest json) with
  | .done (.ok cookie), .done (.ok (.sendParameters params)) =>
      some (.newWithStatsReceiver cookie .server params)
  | _, _ => none

/-- What has been read stays so when more arrives. -/
theorem readCookie_receive {json : Json} {inbound : Inbound} {cookie : String}
    (read : readCookie json inbound.peer = .done (.ok cookie))
    (opened : inbound.peer.closed = false) (bytes : List UInt8) (closed : Bool) :
    readCookie json (inbound.receive bytes closed).peer = .done (.ok cookie) := by
  have ended : serverReadMessage json inbound.peer ≠ .waiting := by
    intro waits
    rw [readCookie, waits] at read
    cases read
  rw [readCookie, Inbound.receive, serverReadMessage_append ended opened, ← readCookie]
  exact read

/-- The cookie that `createPerf` keeps is the one that has been read. -/
def CreatePc.Heard (json : Json) : CreatePc → Prop
  | .welcoming inbound cookie | .awaitingParams inbound cookie =>
      readCookie json inbound.peer = .done (.ok cookie)
  | .reading _ | .sendingStats _ => True

def HostPc.Heard (json : Json) : HostPc → Prop
  | .creating _ pc => pc.Heard json
  | _ => True

/-- The test that has been asked for and waits to be spawned. -/
def HostPc.asked : HostPc → List Perf
  | .creating _ (.sendingStats perf) => [perf]
  | _ => []

namespace Host

variable {json : Json} {host next : Host} {event : HostEvent} {read : List Inbound}

/-- The connections whose parameters are read, one after the other. -/
def noteParams (read : List Inbound) (host : Host) : HostEvent → List Inbound
  | .createParams =>
      match host.accept with
      | .creating _ (.awaitingParams inbound _) => read ++ [inbound]
      | _ => read
  | _ => read

/-- The tests there are, and the one in the making, are those that have been asked for. -/
structure Sourced (json : Json) (read : List Inbound) (host : Host) : Prop where
  heard : host.accept.Heard json
  perfs : read.filterMap (Inbound.asks json) =
    host.tests.map Controller.perf ++ host.accept.asked

theorem new_sourced (json : Json) (build : Build) : (new build).Sourced json [] where
  heard := trivial
  perfs := rfl

theorem noteParams_of_other (other : event ≠ .createParams) :
    noteParams read host event = read := by
  cases event with
  | createParams => exact absurd rfl other
  | _ => rfl

/-- A test that has been asked for waits until it is spawned. -/
theorem asked_of_step {shutdown : Shutdown} {perf : Perf}
    (sending : host.accept = .creating shutdown (.sendingStats perf)) (notSpawn : event ≠ .spawn)
    (step : host.step json event = some next) : next.accept.asked = [perf] := by
  cases event with
  | controller test event | task test index event =>
      simp only [Host.step, Option.bind_eq_bind, Option.bind_eq_some_iff] at step
      rcases step with ⟨controller, found, after, moves, done⟩
      cases done
      simp only [HostPc.asked, sending]
  | ctrlC =>
      simp only [Host.step] at step
      split at step
      · cases step
        simp only [Host.ctrlC, sending]
        cases shutdown <;> rfl
      · cases step
  | spawn => exact absurd rfl notSpawn
  | _ => simp [Host.step, Host.arrive, sending] at step

/-- Nobody waits to be spawned where the accept loop goes back to its `select!`. -/
theorem asked_of_back (notSpawn : event ≠ .spawn) (step : host.step json event = some next)
    (back : next.accept.asked = []) : host.accept.asked = [] := by
  unfold HostPc.asked
  split
  · rename_i shutdown perf sending
    rw [asked_of_step sending notSpawn step] at back
    cases back
  · rfl

private theorem Sourced.keep (sourced : host.Sourced json read) (notSpawn : event ≠ .spawn)
    (other : event ≠ .createParams) (step : host.step json event = some next)
    (asked : next.accept.asked = host.accept.asked) (heard : next.accept.Heard json) :
    next.Sourced json (noteParams read host event) where
  heard := heard
  perfs := by
    rw [noteParams_of_other other, sourced.perfs, perfs_of_step notSpawn step, asked]

/-- Where parameters are read, a test is made of the connection that asks for one. -/
theorem asked_of_createParams (heard : host.accept.Heard json)
    (step : host.step json .createParams = some next) :
    ∃ inbound, noteParams read host .createParams = read ++ [inbound] ∧
      host.accept.asked = [] ∧ next.accept.asked = (inbound.asks json).toList ∧
      next.accept.Heard json := by
  simp only [Host.step] at step
  split at step
  · rename_i shutdown inbound cookie awaiting
    rw [awaiting] at heard
    have greeted : readCookie json inbound.peer = .done (.ok cookie) := heard
    refine ⟨inbound, ?_, ?_, ?_⟩
    · simp only [noteParams, awaiting]
    · rw [awaiting]
      rfl
    · unfold Inbound.asks
      rw [greeted]
      generalize serverReadMessage json (inbound.peer.rest json) = outcome at step ⊢
      rcases outcome with _ | _ | (_ | (_ | _ | _)) <;> cases step <;> exact ⟨rfl, trivial⟩
  · cases step

theorem Sourced.step (sourced : host.Sourced json read) (busy : host.Busy)
    (step : host.step json event = some next) :
    next.Sourced json (noteParams read host event) := by
  by_cases spawns : event = .spawn
  · subst spawns
    simp only [Host.step] at step
    split at step
    · rename_i shutdown perf sending
      cases step
      constructor
      · trivial
      · have perfs := sourced.perfs
        rw [sending] at perfs
        simp only [noteParams, perfs, Host.spawn, List.map_append, HostPc.asked,
          List.append_nil]
        rfl
    · cases step
  by_cases reads : event = .createParams
  · subst reads
    rcases asked_of_createParams sourced.heard step with ⟨inbound, noted, none, asked, heard⟩
    constructor
    · exact heard
    · have one : [inbound].filterMap (Inbound.asks json) = (inbound.asks json).toList := by
        cases asks : inbound.asks json <;> simp [asks]
      rw [noted, List.filterMap_append, sourced.perfs, none, List.append_nil, one, asked,
        perfs_of_step spawns step]
  -- Elsewhere nobody is asked for anything.
  have heard := sourced.heard
  have keep := sourced.keep spawns reads step
  have returns := asked_of_back spawns step
  have turn := turn_of_step busy step
  generalize next.accept = accept at keep returns turn
  cases turn with
  | still => exact keep rfl heard
  | signal shutdown pc creating =>
      rw [creating] at heard keep
      apply keep
      · cases pc <;> rfl
      · exact heard
  | back | finish | crash | enter | start | handle | receive | receiveHello =>
      exact keep (returns rfl).symm trivial
  | receiveParams bytes closed shutdown inbound cookie reading opened =>
      rw [reading] at heard
      exact keep (returns rfl).symm (readCookie_receive heard opened bytes closed)
  | welcoming shutdown inbound cookie reading greeted => exact keep (returns rfl).symm greeted
  | awaiting shutdown inbound cookie welcoming =>
      rw [welcoming] at heard
      exact keep (returns rfl).symm heard
  | asked => exact absurd rfl reads

/-- In every run the tests are those that have been asked for, in that order. -/
theorem sourced_of_run {build : Build} {events : List HostEvent}
    (finished : run (Host.step json) (.new build) events = some host) :
    host.Sourced json (noted (Host.step json) noteParams [] (.new build) events) := by
  have kept : host.Busy ∧
      host.Sourced json (noted (Host.step json) noteParams [] (.new build) events) := by
    apply run_invariant_noted (fun read host => host.Busy ∧ host.Sourced json read) _ _
      (guarded_true _ _ _) finished
    · intro read source event target holds _ step
      exact ⟨(turn_of_step holds.1 step).busy holds.1, holds.2.step holds.1 step⟩
    · exact ⟨by rintro test sender ⟨⟩, new_sourced json build⟩
  exact kept.2

end Host

end Iperf
