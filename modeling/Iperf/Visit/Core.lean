import Iperf.Client.Streams
import Iperf.Host.Turn

/-!
# The client program at the server over many tests

`startClient` opens a control connection, says `Hello`, reads whatever is answered, sends
the parameters and spawns the client's controller.  At the other end is `startServer` with
all its tests.  Everybody else may connect at any time and send anything.

What the client writes up to its parameters, and the `Hello` of each data connection,
arrives in any pieces.  Behind the parameters the control connection carries whole
messages, as it does between the two parties of a session.
-/

namespace Iperf

open Channel Transition

/-- What the client program is given, and the cookie it has drawn. -/
structure Caller where
  build : Build
  cookie : String
  opts : ClientOpts

/-- How far the client program has come. -/
inductive Startup where
  /-- Connects to the server. -/
  | dialing
  /-- Writes the `Hello`. -/
  | greeting
  /-- Reads the answer. -/
  | awaiting
  /-- Writes the parameters. -/
  | asking
  | running (client : Controller)
  | failed

structure Visit where
  host : Host
  startup : Startup
  /-- The shutdown receiver of the client program, before its controller has it. -/
  shutdown : Shutdown
  /-- The connection the client program has dialed. -/
  control : Option TcpStream
  /-- The data connections of the client, in the order they were opened. -/
  opened : List TcpStream
  /-- The connections the listener has not yielded yet. -/
  backlog : List TcpStream
  /-- The connection the listener has yielded last. -/
  current : Option TcpStream
  /-- What the client has written to a connection, up to its parameters. -/
  sent : TcpStream → List UInt8
  /-- The connections to which `createPerf` has written `Welcome`. -/
  greeted : List TcpStream
  /-- The test that was made of the control connection. -/
  test : Option Nat
  /-- What that test has written and the client has not read. -/
  toClient : List ServerMessage
  /-- What the client has written behind its parameters and the test has not read. -/
  toServer : List ClientMessage
  nextId : Nat

inductive VisitEvent where
  /-- The client program connects, or fails to. -/
  | dial (connected : Bool)
  /-- The write of its `Hello` ends. -/
  | hello (delivered : Bool)
  /-- The answer has been read. -/
  | reply (result : Except Error ServerMessage)
  /-- The write of the parameters ends, and the controller is spawned. -/
  | parameters (delivered : Bool)
  /-- The shutdown signal reaches the client program before its controller runs. -/
  | signal
  | client (event : ClientEvent)
  /-- The listener yields one of its connections. -/
  | accept (index : Nat)
  /-- Bytes arrive on the connection the accept loop reads from. -/
  | arrive (bytes : List UInt8) (closed : Bool)
  /-- The server moves otherwise. -/
  | host (event : HostEvent)
  /-- Somebody else connects. -/
  | stranger

namespace Visit

def new (build : Build) : Visit :=
  { host := .new build
    startup := .dialing
    shutdown := .quiet
    control := none
    opened := []
    backlog := []
    current := none
    sent := fun _ => []
    greeted := []
    test := none
    toClient := []
    toServer := []
    nextId := 0 }

/-- The client writes to one of its connections. -/
def send (visit : Visit) (stream : TcpStream) (bytes : List UInt8) : Visit :=
  { visit with
    sent := fun other => visit.sent other ++ if other = stream then bytes else [] }

/-- A message of `startClient`; a failed assertion on its length ends the program as a
failed write does. -/
def write (json : Json) (visit : Visit) (message : ClientMessage) (delivered : Bool)
    (later : Startup) : Visit :=
  match visit.control, writeControlMessage json.client (.message message) with
  | some control, some bytes =>
      if delivered then { visit.send control bytes with startup := later }
      else { visit with startup := .failed }
  | _, _ => { visit with startup := .failed }

/-- `Welcome` has been written to the connection, by `handleCreateStream` or by
`createPerf`. -/
def isWelcomed (visit : Visit) (stream : TcpStream) : Bool :=
  visit.host.replies.contains (stream, .welcome) || visit.greeted.contains stream

/-- The client's connections are closed. -/
def isGone (visit : Visit) : Bool :=
  match visit.startup with
  | .failed => true
  | .running client => !client.alive
  | _ => false

/-- The controller with which `startClient` ends. -/
def spawned (caller : Caller) (shutdown : Shutdown) : Controller :=
  { Client.new caller.build caller.cookie (.fromOpts caller.opts) with shutdown }

def clientStep (json : Json) (visit : Visit) (client : Controller) :
    ClientEvent → Option Visit
  | .controller (.connect (.ok stream)) =>
      if stream = ⟨visit.nextId⟩ then
        (client.controllerStep (.connect (.ok stream))).map fun next =>
          { visit.send stream (Peer.sending json.client (.hello client.perf.cookie)).bytes with
            startup := .running next
            backlog := visit.backlog ++ [stream]
            nextId := visit.nextId + 1
            opened := visit.opened ++ [stream] }
      else none
  | .controller (.reply (.ok message)) =>
      match client.pc with
      | .greeting _ stream =>
          if message = .welcome ∧ visit.isWelcomed stream = true then
            (client.controllerStep (.reply (.ok message))).map fun next =>
              { visit with startup := .running next }
          else none
      | _ => none
  | .controller (.clientRead (.ok message)) =>
      match visit.toClient with
      | [] => none
      | head :: toClient =>
          if head = message then
            (client.controllerStep (.clientRead (.ok message))).map fun next =>
              { visit with startup := .running next, toClient }
          else none
  | .controller event =>
      (client.controllerStep event).map fun next =>
        { visit with
          startup := .running next
          toServer := visit.toServer ++ Session.clientWrites client event }
  | event =>
      (Client.step client event).map fun next => { visit with startup := .running next }

/-- Bytes that can arrive next: what the client has written, in order, and its end once
the client is gone; anything on the connections of others, and the load on a data
connection that has been taken for a new client. -/
def arrives (visit : Visit) (bytes : List UInt8) (closed : Bool) : Bool :=
  visit.host.accept.inHand.all fun inbound =>
    if visit.control = some inbound.stream ∨
        (inbound.stream ∈ visit.opened ∧ inbound.stream ∉ visit.greeted) then
      (inbound.peer.bytes ++ bytes).isPrefixOf (visit.sent inbound.stream) &&
        (!closed || visit.isGone && inbound.peer.bytes ++ bytes == visit.sent inbound.stream)
    else true

/-- What a step of the client's test writes to the control connection. -/
def hostWrites (visit : Visit) (test : Nat) (event : ControllerEvent) : List ServerMessage :=
  if visit.test = some test then
    visit.host.tests[test]?.elim [] fun controller => Session.serverWrites controller event
  else []

def hostStep (json : Json) (visit : Visit) : HostEvent → Option Visit
  | .accept _ => none
  | .arrive _ _ => none
  | .controller test (.serverRead (.ok message)) =>
      if visit.test = some test then
        match visit.toServer with
        | [] => none
        | head :: toServer =>
            if head = message then
              (visit.host.step json (.controller test (.serverRead (.ok message)))).map
                fun host => { visit with host, toServer }
            else none
      else
        (visit.host.step json (.controller test (.serverRead (.ok message)))).map
          fun host => { visit with host }
  | .controller test event =>
      (visit.host.step json (.controller test event)).map fun host =>
        { visit with host, toClient := visit.toClient ++ visit.hostWrites test event }
  | .createWelcome delivered =>
      (visit.host.step json (.createWelcome delivered)).map fun host =>
        { visit with
          host
          greeted :=
            if delivered then visit.greeted ++ visit.host.accept.inHand.map Inbound.stream
            else visit.greeted }
  | .spawn =>
      (visit.host.step json .spawn).map fun host =>
        { visit with
          host
          test :=
            if visit.control.isSome ∧ visit.current = visit.control then
              some visit.host.tests.length
            else visit.test }
  | event => (visit.host.step json event).map fun host => { visit with host }

def step (json : Json) (caller : Caller) (visit : Visit) : VisitEvent → Option Visit
  | .dial connected =>
      match visit.startup with
      | .dialing =>
          if connected then
            some { visit with
              startup := .greeting
              control := some ⟨visit.nextId⟩
              backlog := visit.backlog ++ [⟨visit.nextId⟩]
              nextId := visit.nextId + 1 }
          else some { visit with startup := .failed }
      | _ => none
  | .hello delivered =>
      match visit.startup with
      | .greeting => some (visit.write json (.hello caller.cookie) delivered .awaiting)
      | _ => none
  | .reply result =>
      match visit.startup, visit.control, result with
      | .awaiting, some control, .ok message =>
          if message = .welcome ∧ visit.isWelcomed control = true then
            some { visit with startup := .asking }
          else none
      | .awaiting, _, .error _ => some { visit with startup := .failed }
      | _, _, _ => none
  | .parameters delivered =>
      match visit.startup with
      | .asking =>
          some (visit.write json (.sendParameters (.fromOpts caller.opts)) delivered
            (.running (spawned caller visit.shutdown)))
      | _ => none
  | .signal =>
      match visit.startup with
      | .running _ => none
      | _ =>
          if visit.shutdown = .quiet then some { visit with shutdown := .signalled } else none
  | .client event =>
      match visit.startup with
      | .running client => visit.clientStep json client event
      | _ => none
  | .accept index =>
      match visit.backlog[index]? with
      | none => none
      | some stream =>
          (visit.host.step json (.accept ⟨stream, ⟨[], false⟩⟩)).map fun host =>
            { visit with
              host
              backlog := visit.backlog.eraseIdx index
              current := some stream }
  | .arrive bytes closed =>
      if visit.arrives bytes closed then
        (visit.host.step json (.arrive bytes closed)).map fun host => { visit with host }
      else none
  | .host event => visit.hostStep json event
  | .stranger =>
      some { visit with
        backlog := visit.backlog ++ [⟨visit.nextId⟩]
        nextId := visit.nextId + 1 }

/-! ## Common schedules -/

/-- The client program starts, and a test is made of its control connection. -/
def start (json : Json) (caller : Caller) : List VisitEvent :=
  [.dial true, .hello true, .accept 0,
    .arrive (Peer.sending json.client (.hello caller.cookie)).bytes false, .host .createHello,
    .host (.createWelcome true), .reply (.ok .welcome), .parameters true,
    .arrive (Peer.sending json.client (.sendParameters (.fromOpts caller.opts))).bytes false,
    .host .createParams, .host .spawn]

/-- The client opens its stream while somebody else waits. -/
def firstStream (json : Json) (caller : Caller) : List VisitEvent :=
  start json caller ++ [.stranger] ++ (Server.opening.map (.ofServer 0)).map .host ++
    (Client.joining caller.cookie).map .client ++
    [.client (.controller (.connect (.ok ⟨2⟩))), .accept 1, .host (.handle .look),
      .arrive (Peer.sending json.client (.hello caller.cookie)).bytes false,
      .host (.handle .hello), .host (.handle (.welcome true)),
      .client (.controller (.reply (.ok .welcome))), .host (.handle .handOff),
      .host (.controller 0 .recv)]

end Visit

end Iperf
