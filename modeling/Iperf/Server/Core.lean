import Iperf.Controller.Core
import Iperf.NetUtil.Core
import Iperf.Opts

/-!
# The server while a test is in flight

The accept loop and the test's controller share the test state behind its lock
and the mailbox.  While the controller runs, the accept loop hands every inbound
connection to `handleCreateStream`; its control points are the awaits of that
function.  In the branch for `CreateStreams` the guard of the lock lives until
the connection is dealt with, in the other branch it is dropped at once.
-/

namespace Iperf

/-- A connection together with what its peer is going to send on it. -/
structure Inbound where
  stream : TcpStream
  peer : Peer

/-- The connection opens with a `Hello` that carries `cookie`. -/
def Inbound.presents (json : Json) (cookie : String) (inbound : Inbound) : Bool :=
  match readCookie json inbound.peer with
  | .done (.ok clientCookie) => clientCookie == cookie
  | _ => false

theorem Inbound.presents_iff {json : Json} {cookie : String} {inbound : Inbound} :
    inbound.presents json cookie = true ↔ readCookie json inbound.peer = .done (.ok cookie) := by
  unfold presents
  split
  · rename_i clientCookie read
    simp [read]
  · rename_i other
    simpa using other cookie

/-- A peer that sends one message and waits. -/
def Peer.sending (codec : Codec ClientEnvelope) (message : ClientMessage) : Peer where
  bytes := (writeControlMessage codec (.message message)).getD []
  closed := false

/-- A connection that presents `cookie`. -/
def Inbound.presenting (json : Json) (cookie : String) (id : Nat) : Inbound where
  stream := ⟨id⟩
  peer := .sending json.client (.hello cookie)

/-- What the accept loop answers to a data connection. -/
inductive Reply where
  | welcome
  /-- `PerfTestAlreadyInFlight`. -/
  | inFlight
  deriving DecidableEq

/-- Where the accept loop stands. -/
inductive AcceptPc where
  /-- In `select!`, waiting for a connection or for the shutdown. -/
  | idle
  /-- The in-flight state is upgraded, the lock not taken yet. -/
  | upgraded (inbound : Inbound)
  /-- Holds the lock and reads the `Hello`. -/
  | reading (inbound : Inbound) (cookie : String)
  /-- Holds the lock and writes `Welcome`. -/
  | welcoming (inbound : Inbound)
  /-- Holds the lock and is about to hand the connection over. -/
  | handingOff (inbound : Inbound)
  /-- Writes `PerfTestAlreadyInFlight`, with or without the lock. -/
  | refusing (inbound : Inbound) (holdsLock : Bool)
  /-- `handleCreateStream` has returned an error. -/
  | failed (error : Error)
  | stopped

/-- Inside the scope of the lock guard. -/
def AcceptPc.holdsLock : AcceptPc → Bool
  | .reading _ _ => true
  | .welcoming _ => true
  | .handingOff _ => true
  | .refusing _ holds => holds
  | _ => false

structure Server where
  test : Controller
  accept : AcceptPc
  /-- The answers that have been written to data connections. -/
  replies : List (TcpStream × Reply)

inductive ServerEvent where
  | controller (event : ControllerEvent)
  | task (index : Nat) (event : TaskEvent)
  | ctrlC
  /-- The listener yields a connection and a test is in flight. -/
  | accept (inbound : Inbound)
  /-- `handleCreateStream` locks the test state and matches on it. -/
  | look
  /-- `readCookie` completes. -/
  | hello
  /-- The write of `Welcome` ends. -/
  | welcome (delivered : Bool)
  /-- `CreateStream` is sent to the controller. -/
  | handOff
  /-- The write of `PerfTestAlreadyInFlight` ends, however it ends. -/
  | refuse (delivered : Bool)
  /-- `Terminate` is sent to the controller. -/
  | terminate
  /-- The shutdown receiver wins the `select!`. -/
  | stop

namespace Server

def new (build : Build) (perf : Perf) : Server :=
  { test := .new build perf, accept := .idle, replies := [] }

/-- The guard is dropped. -/
def unlock (server : Server) : Server :=
  { server with test := { server.test with locked := false } }

/-- Lock the test state and match on it. -/
def look (server : Server) (inbound : Inbound) : Server :=
  match server.test.state with
  | .createStreams cookie =>
      { server with
        test := { server.test with locked := true }
        accept := .reading inbound cookie }
  | _ => { server with accept := .refusing inbound false }

/-- The `Hello` has been read, or reading it failed. -/
def hello (server : Server) (inbound : Inbound) (cookie : String) :
    ReadOutcome String → Option Server
  | .waiting => none
  | .panicked => some { server.unlock with accept := .stopped }
  | .done (.error error) => some { server.unlock with accept := .failed error }
  | .done (.ok clientCookie) =>
      if clientCookie = cookie then some { server with accept := .welcoming inbound }
      else some { server with accept := .refusing inbound true }

/-- One step of the accept loop. -/
def acceptStep (json : Json) (server : Server) : ServerEvent → Option Server
  | .accept inbound =>
      match server.accept with
      | .idle =>
          if server.test.alive then some { server with accept := .upgraded inbound }
          else none
      | _ => none
  | .look =>
      match server.accept with
      | .upgraded inbound =>
          if server.test.locked then none else some (server.look inbound)
      | _ => none
  | .hello =>
      match server.accept with
      | .reading inbound cookie =>
          server.hello inbound cookie (readCookie json inbound.peer)
      | _ => none
  | .welcome delivered =>
      match server.accept with
      | .welcoming inbound =>
          if delivered then
            some { server with
              accept := .handingOff inbound
              replies := server.replies ++ [(inbound.stream, .welcome)] }
          else
            some { server.unlock with accept := .failed (.serverWriteError .ioError) }
      | _ => none
  | .handOff =>
      match server.accept with
      | .handingOff inbound =>
          let posted := server.test.trySend (.createStream inbound.stream)
          some { server with
            test := { posted with locked := false }
            accept := .idle }
      | _ => none
  | .refuse delivered =>
      match server.accept with
      | .refusing inbound holds =>
          some { server with
            test := { server.test with locked := server.test.locked && !holds }
            accept := .idle
            replies :=
              if delivered then server.replies ++ [(inbound.stream, .inFlight)]
              else server.replies }
      | _ => none
  | .terminate =>
      match server.accept with
      | .failed _ =>
          some { server with test := server.test.trySend .terminate, accept := .idle }
      | _ => none
  | .stop =>
      match server.accept with
      | .idle =>
          if server.test.shutdown ≠ .quiet then some { server with accept := .stopped }
          else none
      | _ => none
  | _ => none

/-- One step of the server. -/
def step (json : Json) (server : Server) : ServerEvent → Option Server
  | .controller event =>
      (server.test.controllerStep event).map fun test => { server with test }
  | .task index event =>
      (server.test.taskStep index event).map fun test => { server with test }
  | .ctrlC => (server.test.step .ctrlC).map fun test => { server with test }
  | event => server.acceptStep json event

/-! ## Common schedules -/

/-- One turn of the main loop, up to the `select!`. -/
def turn : List ServerEvent :=
  [.controller .turn, .controller .act, .controller .poll]

/-- A new state is announced and stored. -/
def announcement : List ServerEvent :=
  [.controller (.write true), .controller .store]

/-- From the start of the controller to its first `select!`. -/
def opening : List ServerEvent :=
  [.controller .start, .controller .turn, .controller .act] ++ announcement ++ turn

/-- A data connection is accepted, authenticated and handed over. -/
def admission (inbound : Inbound) : List ServerEvent :=
  [.accept inbound, .look, .hello, .welcome true, .handOff]

/-- A server whose test has the default options but for the number of streams. -/
def sample (parallel : UInt16) : Server :=
  new ⟨true, true⟩ (Perf.newWithStatsReceiver "c" .server (.fromOpts { parallel }))

/-- One stream is admitted, registered and, if it is the only one, started. -/
def startOne : List ServerEvent :=
  opening ++ admission (.presenting (.ofCookie "c") "c" 0) ++ [.controller .recv] ++
    announcement ++ turn

end Server

end Iperf
