import Iperf.Message

/-!
# The test both sides agree on

`Perf` holds what stays fixed while a test runs.  Its shared state, control
socket, shutdown receiver and stats sender change along a run and are fields
of the controller's state.
-/

namespace Iperf

/-- The number of streams a test is to have. -/
def Parameters.totalStreams (params : Parameters) : Nat :=
  match params.direction with
  | .bidirectional => 2 * params.parallel.toNat
  | _ => params.parallel.toNat

structure Perf where
  /-- Identifies the test; data connections present it. -/
  cookie : String
  role : Role
  params : Parameters
  /-- Number of streams on which this side sends. -/
  numSendStreams : UInt16
  /-- Number of streams on which this side receives. -/
  numReceiveStreams : UInt16
  deriving DecidableEq

namespace Perf

/-- The counts as the client sees them. -/
def streamCounts (params : Parameters) : UInt16 × UInt16 :=
  match params.direction with
  | .clientToServer => (params.parallel, 0)
  | .serverToClient => (0, params.parallel)
  | .bidirectional => (params.parallel, params.parallel)

/-- Only the server swaps the two counts. -/
def newWithStatsReceiver (cookie : String) (role : Role) (params : Parameters) : Perf :=
  let counts := streamCounts params
  let counts :=
    match role with
    | .server => counts.swap
    | .client => counts
  { cookie, role, params
    numSendStreams := counts.1
    numReceiveStreams := counts.2 }

/-- The number of streams the parameters ask for. -/
def totalStreams (perf : Perf) : Nat :=
  perf.numSendStreams.toNat + perf.numReceiveStreams.toNat

/-- The same number as the program computes it, in sixteen bits. -/
def neededStreams (perf : Perf) : Nat :=
  (perf.numSendStreams + perf.numReceiveStreams).toNat

theorem neededStreams_lt (perf : Perf) : perf.neededStreams < UInt16.size :=
  UInt16.toNat_lt _

theorem neededStreams_le (perf : Perf) : perf.neededStreams ≤ perf.totalStreams := by
  rw [neededStreams, UInt16.toNat_add]
  exact Nat.mod_le _ _

theorem neededStreams_of_fits {perf : Perf} (fits : perf.totalStreams < UInt16.size) :
    perf.neededStreams = perf.totalStreams := by
  rw [neededStreams, UInt16.toNat_add]
  exact Nat.mod_eq_of_lt fits

/-- What one side sends the other receives. -/
theorem newWithStatsReceiver_mirror (cookie : String) (params : Parameters) :
    (newWithStatsReceiver cookie .client params).numSendStreams =
        (newWithStatsReceiver cookie .server params).numReceiveStreams ∧
      (newWithStatsReceiver cookie .client params).numReceiveStreams =
        (newWithStatsReceiver cookie .server params).numSendStreams :=
  ⟨rfl, rfl⟩

/-- Both sides count the streams the parameters ask for. -/
theorem totalStreams_newWithStatsReceiver (cookie : String) (role : Role)
    (params : Parameters) :
    (newWithStatsReceiver cookie role params).totalStreams = params.totalStreams := by
  cases role <;> cases direction : params.direction <;>
    simp [newWithStatsReceiver, streamCounts, totalStreams, Parameters.totalStreams, direction,
      Nat.two_mul]

end Perf

end Iperf
