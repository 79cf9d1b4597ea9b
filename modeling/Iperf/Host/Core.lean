import Iperf.Server.Core

/-!
# The server over many tests

`startServer` accepts connections one after another.  It keeps a weak reference
to the state of the test in flight and, beside it, the sender of that test's
mailbox.  While the reference can be upgraded a connection goes through
`handleCreateStream`, otherwise `createPerf` makes a new test of it.

Tests are named by their position in the list of all tests.  The bytes of a
connection arrive while the accept loop waits for them, or before.
-/

namespace Iperf

open Channel

/-- What a peer sends behind its first message. -/
def Peer.rest (json : Json) (peer : Peer) : Peer :=
  { peer with bytes := (Reader.fresh.feed json.client peer.bytes).2 }

/-- More bytes arrive, or the peer closes its side. -/
def Inbound.receive (inbound : Inbound) (bytes : List UInt8) (closed : Bool) : Inbound :=
  { inbound with peer := { bytes := inbound.peer.bytes ++ bytes, closed } }

/-- Where the accept loop stands in `createPerf` and after it. -/
inductive CreatePc where
  /-- Reads the `Hello`. -/
  | reading (inbound : Inbound)
  /-- Writes `Welcome`. -/
  | welcoming (inbound : Inbound) (cookie : String)
  /-- Reads the parameters for at most `PROTOCOL_TIMEOUT`. -/
  | awaitingParams (inbound : Inbound) (cookie : String)
  /-- Sends the receiver of the stats to whoever prints them. -/
  | sendingStats (perf : Perf)

inductive HostPc where
  /-- In `select!`. -/
  | idle
  /-- In `handleCreateStream`, with a reference to the state of `test` and the
  mailbox of `sender`. -/
  | handling (test sender : Nat) (pc : AcceptPc)
  /-- In `createPerf`, with a shutdown receiver for the new test. -/
  | creating (shutdown : Shutdown) (pc : CreatePc)
  | stopped

/-- Inside `handleCreateStream`. -/
def HostPc.isHandling : HostPc → Bool
  | .handling _ _ _ => true
  | _ => false

structure Host where
  build : Build
  /-- All tests, in the order in which they were made. -/
  tests : List Controller
  /-- The test the weak reference belongs to, if it was ever set. -/
  inFlightTestState : Option Nat
  /-- The test whose mailbox the stored sender belongs to. -/
  controllerChannel : Option Nat
  shutdown : Shutdown
  accept : HostPc
  /-- The answers that have been written to data connections. -/
  replies : List (TcpStream × Reply)

inductive HostEvent where
  | controller (test : Nat) (event : ControllerEvent)
  | task (test index : Nat) (event : TaskEvent)
  | ctrlC
  | accept (inbound : Inbound)
  /-- The listener fails. -/
  | listenerError
  /-- Bytes arrive on the connection the accept loop reads from. -/
  | arrive (bytes : List UInt8) (closed : Bool)
  /-- A step of `handleCreateStream`. -/
  | handle (event : ServerEvent)
  /-- The `Hello` is read in `createPerf`. -/
  | createHello
  /-- The write of `Welcome` ends in `createPerf`. -/
  | createWelcome (delivered : Bool)
  /-- The parameters are read. -/
  | createParams
  /-- `PROTOCOL_TIMEOUT` passes. -/
  | timeout
  /-- The stats receiver is sent, and the controller is spawned. -/
  | spawn
  | stop

namespace Host

def new (build : Build) : Host :=
  { build
    tests := []
    inFlightTestState := none
    controllerChannel := none
    shutdown := .quiet
    accept := .idle
    replies := [] }

/-- The accept loop holds a reference to the state of `test`. -/
def references (host : Host) (test : Nat) : Bool :=
  match host.accept with
  | .handling held _ _ => held == test
  | _ => false

/-- The controller of `test` runs, and owns the state. -/
def isAlive (host : Host) (test : Nat) : Bool :=
  (host.tests[test]?).any Controller.alive

/-- The test in flight, if anything still owns its state. -/
def upgrade (host : Host) : Option Nat :=
  host.inFlightTestState.filter fun test => host.isAlive test || host.references test

/-- Where the accept loop goes on once `handleCreateStream` stands at `pc`. -/
def handlingPc (test sender : Nat) : AcceptPc → HostPc
  | .idle => .idle
  | .stopped => .stopped
  | pc => .handling test sender pc

/-- The test and the accept loop as they are seen from inside of one test. -/
def view (host : Host) (controller : Controller) (pc : AcceptPc) : Server :=
  { test := controller, accept := pc, replies := host.replies }

/-- Drop the guard of the lock and the reference to the state of `test`. -/
def release (host : Host) (test : Nat) : Host :=
  { host with
    tests := host.tests.modify test fun controller => { controller with locked := false }
    accept := .idle }

/-- Post to the mailbox of `sender`. -/
def post (host : Host) (sender : Nat) (message : ControllerMessage) : Host :=
  { host with tests := host.tests.modify sender (·.trySend message) }

/-- A step on the way of a connection to `test`: the lock is that of `test`, what
is posted goes to `sender`. -/
def handle (json : Json) (host : Host) (test sender : Nat) (event : ServerEvent) :
    AcceptPc → Option Host
  | .handingOff inbound =>
      match event with
      | .handOff => some ((host.post sender (.createStream inbound.stream)).release test)
      | _ => none
  | .failed _ =>
      match event with
      | .terminate => some { host.post sender .terminate with accept := .idle }
      | _ => none
  | pc => do
      let controller ← host.tests[test]?
      let after ← (host.view controller pc).acceptStep json event
      return { host with
        tests := host.tests.set test after.test
        replies := after.replies
        accept := handlingPc test sender after.accept }

def acceptInbound (host : Host) (inbound : Inbound) : Host :=
  match host.upgrade with
  | some test =>
      match host.controllerChannel with
      | some sender => { host with accept := .handling test sender (.upgraded inbound) }
      | none => { host with accept := .stopped }
  | none =>
      -- A receiver that is made after the signal sees only that the sender is gone.
      let shutdown := if host.shutdown = .quiet then .quiet else .taken
      { host with accept := .creating shutdown (.reading inbound) }

/-- The `Hello` of a new test has been read. -/
def createHello (host : Host) (shutdown : Shutdown) (inbound : Inbound) :
    ReadOutcome String → Option Host
  | .waiting => none
  | .panicked => some { host with accept := .stopped }
  | .done (.error _) => some { host with accept := .idle }
  | .done (.ok cookie) =>
      some { host with accept := .creating shutdown (.welcoming inbound cookie) }

/-- The message behind the `Hello` has been read. -/
def createParams (host : Host) (shutdown : Shutdown) (cookie : String) :
    ReadOutcome ClientMessage → Option Host
  | .waiting => none
  | .panicked => some { host with accept := .stopped }
  | .done (.ok (.sendParameters params)) =>
      some { host with
        accept :=
          .creating shutdown (.sendingStats (.newWithStatsReceiver cookie .server params)) }
  | .done _ => some { host with accept := .idle }

/-- Keep the references to the new test and spawn its controller. -/
def spawn (host : Host) (shutdown : Shutdown) (perf : Perf) : Host :=
  { host with
    tests := host.tests ++ [{ Controller.new host.build perf with shutdown }]
    inFlightTestState := some host.tests.length
    controllerChannel := some host.tests.length
    accept := .idle }

/-- A test that has not been told yet is told to shut down. -/
def signal (controller : Controller) : Controller :=
  if controller.shutdown = .quiet then { controller with shutdown := .signalled } else controller

/-- The shutdown signal reaches everyone who listens. -/
def ctrlC (host : Host) : Host :=
  { host with
    shutdown := .signalled
    tests := host.tests.map signal
    accept :=
      match host.accept with
      | .creating .quiet pc => .creating .signalled pc
      | pc => pc }

/-- Bytes arrive where the accept loop waits for them. -/
def arrive (host : Host) (bytes : List UInt8) (closed : Bool) : Option Host :=
  match host.accept with
  | .handling test sender (.reading inbound cookie) =>
      if inbound.peer.closed then none
      else some { host with
        accept := .handling test sender (.reading (inbound.receive bytes closed) cookie) }
  | .creating shutdown (.reading inbound) =>
      if inbound.peer.closed then none
      else some { host with
        accept := .creating shutdown (.reading (inbound.receive bytes closed)) }
  | .creating shutdown (.awaitingParams inbound cookie) =>
      if inbound.peer.closed then none
      else some { host with
        accept := .creating shutdown (.awaitingParams (inbound.receive bytes closed) cookie) }
  | _ => none

def step (json : Json) (host : Host) : HostEvent → Option Host
  | .controller test event => do
      let controller ← host.tests[test]?
      let next ← controller.controllerStep event
      return { host with tests := host.tests.set test next }
  | .task test index event => do
      let controller ← host.tests[test]?
      let next ← controller.taskStep index event
      return { host with tests := host.tests.set test next }
  | .ctrlC => if host.shutdown = .quiet then some host.ctrlC else none
  | .accept inbound =>
      match host.accept with
      | .idle => some (host.acceptInbound inbound)
      | _ => none
  | .listenerError =>
      match host.accept with
      | .idle => some { host with accept := .stopped }
      | _ => none
  | .arrive bytes closed => host.arrive bytes closed
  | .handle event =>
      match host.accept with
      | .handling test sender pc => host.handle json test sender event pc
      | _ => none
  | .createHello =>
      match host.accept with
      | .creating shutdown (.reading inbound) =>
          host.createHello shutdown inbound (readCookie json inbound.peer)
      | _ => none
  | .createWelcome delivered =>
      match host.accept with
      | .creating shutdown (.welcoming inbound cookie) =>
          if delivered then
            some { host with accept := .creating shutdown (.awaitingParams inbound cookie) }
          else some { host with accept := .idle }
      | _ => none
  | .createParams =>
      match host.accept with
      | .creating shutdown (.awaitingParams inbound cookie) =>
          host.createParams shutdown cookie
            (serverReadMessage json (inbound.peer.rest json))
      | _ => none
  | .timeout =>
      match host.accept with
      | .creating _ (.awaitingParams _ _) => some { host with accept := .idle }
      | _ => none
  | .spawn =>
      match host.accept with
      | .creating shutdown (.sendingStats perf) => some (host.spawn shutdown perf)
      | _ => none
  | .stop =>
      match host.accept with
      | .idle =>
          if host.shutdown ≠ .quiet then some { host with accept := .stopped } else none
      | _ => none

end Host

/-! ## Common schedules -/

/-- The JSON texts for a client that runs with the default options. -/
def Json.ofDefaults (cookie : String) : Json where
  client := .ofTexts [
    (.message (.hello cookie),
      "\x7b\"Message\":\x7b\"Hello\":\x7b\"cookie\":\"" ++ cookie ++ "\"\x7d\x7d\x7d"),
    (.message (.sendParameters (.fromOpts {})),
      "\x7b\"Message\":\x7b\"SendParameters\":\x7b\"prefer_ipv6\":false," ++
        "\"direction\":\"ClientToServer\",\"duration\":10,\"parallel\":1," ++
        "\"client_version\":\"0.1.0\",\"block_size\":2097152,\"no_delay\":false," ++
        "\"socket_buffers\":null,\"mss\":null,\"interval\":1,\"max_length\":null" ++
        "\x7d\x7d\x7d")]
  server := (Json.ofCookie cookie).server

/-- A connection that asks for a test with the default options. -/
def Inbound.asking (json : Json) (cookie : String) (id : Nat) : Inbound where
  stream := ⟨id⟩
  peer := {
    bytes := (Peer.sending json.client (.hello cookie)).bytes ++
      (Peer.sending json.client (.sendParameters (.fromOpts {}))).bytes
    closed := false }

/-- A connection on which nothing is ever sent. -/
def Inbound.silent (id : Nat) : Inbound where
  stream := ⟨id⟩
  peer := { bytes := [], closed := false }

/-- What happens to one test, seen from the server over many tests. -/
def HostEvent.ofServer (test : Nat) : ServerEvent → HostEvent
  | .controller event => .controller test event
  | .task index event => .task test index event
  | .ctrlC => .ctrlC
  | .accept inbound => .accept inbound
  | .stop => .stop
  | event => .handle event

namespace Host

/-- A connection becomes a new test. -/
def creation (inbound : Inbound) : List HostEvent :=
  [.accept inbound, .createHello, .createWelcome true, .createParams, .spawn]

/-- A test is created, asks for its stream, and gets it. -/
def firstStream : List HostEvent :=
  creation (.asking (.ofDefaults "c") "c" 0) ++
    (Server.opening ++ Server.admission (.presenting (.ofDefaults "c") "c" 1)).map (.ofServer 0)

end Host

end Iperf
