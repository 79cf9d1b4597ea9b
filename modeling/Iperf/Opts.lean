import Iperf.Message

/-!
# Options of the client

The command-line options that reach the test parameters, with the defaults of
the command line.  Where the client connects to and what it prints is left out.
-/

namespace Iperf

def defaultBlockSize : Nat := 2 * mb

def defaultIntervalSec : Nat := 1

structure ClientOpts where
  /-- Time in seconds to transmit for. -/
  time : Nat := 10
  /-- Number of bytes to transmit. -/
  bytes : Option Nat := none
  /-- Length of buffer to read or write. -/
  length : Option Nat := none
  /-- Number of parallel client streams to run. -/
  parallel : UInt16 := 1
  /-- Server sends, client receives. -/
  reverse : Bool := false
  bidir : Bool := false
  window : Option Nat := none
  setMss : Option Nat := none
  noDelay : Bool := false
  preferIpv6 : Bool := false
  interval : Option Nat := none

/-- The parameters a client asks for. -/
def Parameters.fromOpts (opts : ClientOpts) : Parameters :=
  { preferIpv6 := opts.preferIpv6
    direction :=
      if opts.bidir then .bidirectional
      else if opts.reverse then .serverToClient
      else .clientToServer
    duration := opts.time
    parallel := opts.parallel
    clientVersion := "0.1.0"
    blockSize := opts.length.getD defaultBlockSize
    noDelay := opts.noDelay
    socketBuffers := opts.window
    mss := opts.setMss
    interval := opts.interval.getD defaultIntervalSec
    maxLength := opts.bytes }

end Iperf
