import Iperf.Host.Step
import Iperf.Printing.Core

/-!
# The printing loop of the server

`runServer` prints one test after the other.  The accept loop hands it the stats
receiver of each new test on a channel for one receiver; the loop prints the lines of a
test until its stats channel is at an end, and only then takes the next receiver.

A test is named by its position, also where its peer's address is printed.
-/

namespace Iperf

open Channel Transition

/-- What the server prints. -/
inductive ServerLine where
  /-- A test is accepted. -/
  | accept (test : Nat)
  | stats (test : Nat) (line : StreamStats)
  deriving DecidableEq

/-- The server over many tests and the loop that prints their lines. -/
structure RunServer where
  host : Host
  /-- The stats channels of the tests. -/
  stats : List StatsChannel
  /-- The channel of the stats receivers. -/
  perfStats : Drain Nat 1
  /-- The test whose lines are printed. -/
  current : Option Nat
  output : List ServerLine

inductive RunServerEvent where
  | host (event : HostEvent)
  /-- The stats receiver of the next test is received. -/
  | accept
  /-- A line of the current test is received and printed. -/
  | print
  /-- The stats channel of the current test is at its end. -/
  | atEnd
  /-- The accept loop is gone, and so is its sender. -/
  | finish

/-- The accept loop still holds the sender of the stats receivers. -/
def HostPc.isRunning : HostPc → Bool
  | .stopped => false
  | _ => true

namespace RunServer

def new (build : Build) : RunServer where
  host := .new build
  stats := []
  perfStats := .new
  current := none
  output := []

/-- What a step of a test does to its stats channel. -/
def pass (server : RunServer) (test : Nat) (event : Event) : Option (List StatsChannel) := do
  let controller ← server.host.tests[test]?
  let channel ← server.stats[test]?
  let passed ← controller.pass channel event
  return server.stats.set test passed

/-- A step of the accept loop or of a test.  A new test waits until its stats receiver is
taken up by the channel. -/
def hostStep (json : Json) (server : RunServer) (event : HostEvent) : Option RunServer := do
  let host ← server.host.step json event
  match event with
  | .controller test event =>
      let stats ← server.pass test (.controller event)
      return { server with host, stats }
  | .task test index event =>
      let stats ← server.pass test (.task index event)
      return { server with host, stats }
  | .spawn =>
      let perfStats ← server.perfStats.send server.host.tests.length
      return { server with host, perfStats, stats := server.stats ++ [.new] }
  | _ => return { server with host }

def step (json : Json) (server : RunServer) : RunServerEvent → Option RunServer
  | .host event => server.hostStep json event
  | .accept =>
      match server.current with
      | none =>
          server.perfStats.take.map fun took =>
            { server with
              perfStats := took.2
              current := some took.1
              output := server.output ++ [.accept took.1] }
      | some _ => none
  | .print => do
      let test ← server.current
      let channel ← server.stats[test]?
      let took ← channel.take
      return { server with
        stats := server.stats.set test took.2
        output := server.output ++ [.stats test took.1] }
  | .atEnd => do
      let test ← server.current
      let controller ← server.host.tests[test]?
      let channel ← server.stats[test]?
      let ended ← channel.finish controller.hasStatsSender
      return { server with stats := server.stats.set test ended, current := none }
  | .finish =>
      match server.current with
      | none =>
          (server.perfStats.finish server.host.accept.isRunning).map fun perfStats =>
            { server with perfStats }
      | some _ => none

/-- The lines of a test that have been printed. -/
def printed (server : RunServer) (test : Nat) : List StreamStats :=
  (server.stats[test]?).elim [] Drain.taken

/-- The lines of a test that have been printed or wait to be. -/
def lines (server : RunServer) (test : Nat) : List StreamStats :=
  (server.stats[test]?).elim [] Drain.accepted

/-- What is printed of a test: that it is accepted, and its lines. -/
def sectionOf (server : RunServer) (test : Nat) : List ServerLine :=
  .accept test :: (server.printed test).map (.stats test)

/-! ## Common schedules -/

def controllerEvents (test : Nat) (events : List ControllerEvent) : List RunServerEvent :=
  events.map fun event => .host (.controller test event)

/-- A test with one stream, printed to its end. -/
def firstTest : List RunServerEvent :=
  Host.firstStream.map .host ++ .accept ::
    controllerEvents 0 ([.recv, .write true, .store] ++ Printout.turn) ++
    Printout.twoReports.map (fun event => .host (.task 0 0 event)) ++ [.print] ++
    controllerEvents 0 [.recv, .join, .write true, .store, .turn, .act, .collected,
      .serverRead (.ok (.sendResults Printout.peerResults)), .write true, .forward 0 true,
      .forward 0 true, .done] ++
    [.print, .print, .print, .atEnd]

/-- One more test is accepted. -/
def twoTests : List RunServerEvent :=
  firstTest ++ (Host.creation (.asking (.ofDefaults "c") "c" 2)).map .host ++ [.accept]

theorem twoTests_runs :
    (run (RunServer.step (.ofDefaults "c")) (new ⟨true, true⟩) twoTests).isSome = true := by
  decide +kernel

/-- The server after two tests. -/
def afterTwoTests : RunServer :=
  (run (RunServer.step (.ofDefaults "c")) (new ⟨true, true⟩) twoTests).get twoTests_runs

theorem afterTwoTests_reachable :
    Reachable (RunServer.step (.ofDefaults "c")) (new ⟨true, true⟩) afterTwoTests :=
  ⟨twoTests, (Option.some_get twoTests_runs).symm⟩

end RunServer

end Iperf
