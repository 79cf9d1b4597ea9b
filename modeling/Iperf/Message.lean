import Mathlib.Data.List.AList

/-!
# Messages, parameters and constants

The data both sides exchange over the control connection, with the constants
the protocol code reads.  `usize` and `u64` values are natural numbers; the
stream counters keep their `u16` width, because they wrap.
-/

namespace Iperf

def kb : Nat := 1024

def mb : Nat := 1024 * kb

/-- Capacity of the controller's mailbox and of a stats channel. -/
def internalPortBuffer : Nat := 5

/-- Width of the length that precedes every control message. -/
def messageLengthSizeBytes : Nat := 4

def maxControlMessageSize : Nat := 20 * mb

/-- Compile-time choices of the program that the model does not fix. -/
structure Build where
  /-- Integer overflow panics instead of wrapping around. -/
  overflowChecks : Bool
  /-- Kernel TCP statistics are available. -/
  linux : Bool
  deriving DecidableEq

/-- Addition of two `u16` values; `none` is the overflow panic. -/
def Build.addU16 (build : Build) (left right : UInt16) : Option UInt16 :=
  if build.overflowChecks ∧ UInt16.size ≤ left.toNat + right.toNat then
    none
  else
    some (left + right)

inductive Role where
  | client
  | server
  deriving DecidableEq

/-- Direction of stream. -/
inductive Direction where
  | clientToServer
  | serverToClient
  | bidirectional
  deriving DecidableEq

structure Parameters where
  preferIpv6 : Bool
  direction : Direction
  /-- Duration of the test in seconds. -/
  duration : Nat
  /-- Number of parallel streams. -/
  parallel : UInt16
  clientVersion : String
  /-- Length of the buffer to read or write. -/
  blockSize : Nat
  noDelay : Bool
  socketBuffers : Option Nat
  mss : Option Nat
  /-- Seconds between periodic throughput reports. -/
  interval : Nat
  /-- Maximum length of data to send or receive. -/
  maxLength : Option Nat
  deriving DecidableEq

structure StreamStats where
  id : Nat
  index : Option Nat
  /-- In milliseconds. -/
  duration : Nat
  bytesTransferred : Nat
  retransmits : Option Nat
  cwnd : Option Nat
  isSending : Bool
  isPeer : Bool
  isSummary : Bool
  deriving DecidableEq

/-- Stream summaries by stream id. -/
abbrev Results := AList fun _ : Nat => StreamStats

/-- Where a test is in its life-cycle. -/
inductive State where
  /-- Parameters have been exchanged, the server is not ready for streams yet. -/
  | start
  /-- Asks the client to establish the data stream connections. -/
  | createStreams (cookie : String)
  /-- All connections are established, stream the data and measure. -/
  | running
  /-- Asks both sides to exchange their results. -/
  | exchangeResults
  | terminate
  deriving DecidableEq

/-- Messages sent by the client to the server. -/
inductive ClientMessage where
  | hello (cookie : String)
  | sendParameters (params : Parameters)
  | sendResults (results : Results)
  deriving DecidableEq

/-- Messages sent by the server to the client. -/
inductive ServerMessage where
  | welcome
  | setState (state : State)
  | sendResults (results : Results)
  deriving DecidableEq

inductive ServerError where
  | perfTestAlreadyInFlight
  deriving DecidableEq

/-- The client has no errors to report. -/
inductive ClientError where
  deriving DecidableEq

inductive ClientEnvelope where
  | message (message : ClientMessage)
  | error (error : ClientError)
  deriving DecidableEq

inductive ServerEnvelope where
  | message (message : ServerMessage)
  | error (error : ServerError)
  deriving DecidableEq

/-- Signals from the controller to its stream workers. -/
inductive WorkerMessage where
  | startLoad
  | terminate
  deriving DecidableEq

/-! ## Overflow of the stream counters -/

theorem Build.addU16_of_fits (build : Build) {left right : UInt16}
    (fits : left.toNat + right.toNat < UInt16.size) :
    build.addU16 left right = some (left + right) ∧
      (left + right).toNat = left.toNat + right.toNat := by
  constructor
  · simp only [addU16, not_le.mpr fits, and_false, if_false]
  · rw [UInt16.toNat_add]
    exact Nat.mod_eq_of_lt fits

end Iperf
