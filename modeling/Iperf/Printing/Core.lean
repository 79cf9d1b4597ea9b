import Iperf.Channel.Drain
import Iperf.Controller.Core
import Iperf.Opts

/-!
# The printed lines of a test

The workers of one side and, at its end, its controller send what is to be
printed on one bounded channel.  A printing loop takes the lines from it until
the channel is empty and every sender is gone.

A sender waits while the channel is full, and is told only when the printing
loop is gone; so of a side's steps those that send are tied to the channel, and
all the others are free.
-/

namespace Iperf

open Channel Transition

/-- The channel from one side of a test to whoever prints its lines. -/
abbrev StatsChannel := Drain StreamStats internalPortBuffer

/-- A send on the stats channel fails. -/
def Event.failsToSend : Event → Bool
  | .controller (.forward _ delivered) => !delivered
  | .task _ (.work (.sent delivered)) => !delivered
  | _ => false

/-- Only the task of a stream says that the stream has terminated. -/
def Event.isGenuine : Event → Bool
  | .post (.streamTerminated _) => false
  | _ => true

namespace Controller

/-- The line that a step sends on the stats channel. -/
def offers (controller : Controller) : Event → Option StreamStats
  | .controller (.forward index true) =>
      match controller.pc with
      | .forwarding [] remoteStats => remoteStats[index]?
      | .forwarding localStats _ => localStats[index]?
      | _ => none
  | .task index (.work (.sent true)) =>
      (controller.tasks[index]?).bind fun task =>
        match task.worker.pc with
        | .reporting _ _ stats => some stats
        | .closing _ stats => some stats
        | _ => none
  | _ => none

/-- The controller is forwarding results: it owns the sender it has taken. -/
def isForwarding (controller : Controller) : Bool :=
  match controller.pc with
  | .forwarding _ _ => true
  | _ => false

/-- Somebody holds a sender of the stats channel: the test itself, the forwarding of the
results, or a worker that has not returned. -/
def hasStatsSender (controller : Controller) : Bool :=
  controller.statsSender || controller.isForwarding || controller.hasListener

/-- What a step does to the stats channel. -/
def pass (controller : Controller) (stats : StatsChannel) (event : Event) :
    Option StatsChannel :=
  match controller.offers event with
  | some line => stats.send line
  | none => if event.failsToSend && !stats.ended then none else some stats

end Controller

/-- One side of a test and the loop that prints its lines. -/
structure Printout where
  controller : Controller
  stats : StatsChannel

inductive PrintoutEvent where
  | side (event : Event)
  /-- A line is received and printed. -/
  | print
  /-- The printing loop ends. -/
  | atEnd

namespace Printout

/-- A test that is created when the shutdown receiver stands at `shutdown`. -/
def new (build : Build) (perf : Perf) (shutdown : Shutdown) : Printout where
  controller := { Controller.new build perf with shutdown }
  stats := .new

/-- The lines that have been printed. -/
def printed (printout : Printout) : List StreamStats :=
  printout.stats.taken

/-- The lines that have been printed or wait to be. -/
def lines (printout : Printout) : List StreamStats :=
  printout.stats.accepted

def step (printout : Printout) : PrintoutEvent → Option Printout
  | .side event =>
      if event.isGenuine then do
        let controller ← printout.controller.step event
        let stats ← printout.controller.pass printout.stats event
        return { controller, stats }
      else
        none
  | .print => printout.stats.take.map fun took => { printout with stats := took.2 }
  | .atEnd =>
      (printout.stats.finish printout.controller.hasStatsSender).map fun stats =>
        { printout with stats }

/-- What a step does to the lines. -/
inductive Move (printout next : Printout) : PrintoutEvent → Prop where
  | quiet (event : Event) (genuine : event.isGenuine = true)
      (step : printout.controller.step event = some next.controller)
      (silent : printout.controller.offers event = none)
      (told : event.failsToSend = true → printout.stats.ended = true)
      (kept : next.stats = printout.stats) : Move printout next (.side event)
  | line (event : Event) (genuine : event.isGenuine = true) (line : StreamStats)
      (step : printout.controller.step event = some next.controller)
      (offered : printout.controller.offers event = some line)
      (running : printout.stats.ended = false) (open_ : next.stats.ended = false)
      (added : next.lines = printout.lines ++ [line]) : Move printout next (.side event)
  | print (line : StreamStats) (kept : next.controller = printout.controller)
      (running : printout.stats.ended = false) (open_ : next.stats.ended = false)
      (lines : next.lines = printout.lines)
      (printed : next.printed = printout.printed ++ [line]) : Move printout next .print
  | atEnd (kept : next.controller = printout.controller)
      (gone : printout.controller.hasStatsSender = false) (lines : next.lines = printout.lines)
      (printed : next.printed = printout.printed) : Move printout next .atEnd

theorem move_of_step {printout next : Printout} {event : PrintoutEvent}
    (step : printout.step event = some next) : Move printout next event := by
  cases event with
  | side event =>
      simp only [Printout.step] at step
      split at step
      · rename_i genuine
        simp only [Option.bind_eq_bind, Option.bind_eq_some_iff] at step
        rcases step with ⟨controller, moved, stats, passed, done⟩
        cases done
        unfold Controller.pass at passed
        split at passed
        · rename_i line offered
          rcases Drain.send_eq_some passed with ⟨running, open_, -, added⟩
          exact .line event genuine line moved offered running open_ added
        · rename_i silent
          split at passed
          · cases passed
          · rename_i told
            cases passed
            have ended : event.failsToSend = true → printout.stats.ended = true := by
              intro fails
              simpa [fails] using told
            exact .quiet event genuine moved silent ended rfl
      · cases step
  | print =>
      rcases Option.map_eq_some_iff.mp step with ⟨⟨line, stats⟩, took, rfl⟩
      rcases Drain.take_eq_some took with ⟨running, open_, printed, lines⟩
      exact .print line rfl running open_ lines printed
  | atEnd =>
      rcases Option.map_eq_some_iff.mp step with ⟨stats, finished, rfl⟩
      rcases Drain.finish_eq_some finished with ⟨-, gone, -, printed, lines⟩
      exact .atEnd rfl gone lines printed

/-! ## Common schedules -/

/-- A client that runs with the default options. -/
def sample : Printout :=
  new ⟨true, true⟩ (.newWithStatsReceiver "c" .client (.fromOpts {})) .quiet

/-- One turn of the main loop, up to the `select!`. -/
def turn : List ControllerEvent :=
  [.turn, .act, .poll]

/-- The server announces a state. -/
def told (state : State) : List ControllerEvent :=
  [.clientRead (.ok (.setState state)), .store]

/-- One stream is opened, and the load is started. -/
def opening : List ControllerEvent :=
  .start :: turn ++ told (.createStreams "c") ++
    [.turn, .act, .connect (.ok ⟨0⟩), .reply (.ok .welcome), .poll] ++ told .running ++ turn

/-- A worker that reports twice and returns. -/
def twoReports : List TaskEvent :=
  [.work (.signal 0 0), .work (.head 0), .work (.transfer (.moved 5) 1500000000 none),
    .work (.sent true), .work (.head 1500000000),
    .work (.transfer (.moved 0) 1700000000 none), .work (.leave 1900000000 none),
    .work (.sent true), .work (.summarize 1900000000 none), .post, .finish]

/-- What the server says of its stream. -/
def peerResults : Results :=
  (∅ : Results).insert 0
    { id := 0
      index := none
      duration := 1700
      bytesTransferred := 5
      retransmits := none
      cwnd := none
      isSending := false
      isPeer := false
      isSummary := true }

/-- The results are exchanged and forwarded. -/
def closing : List ControllerEvent :=
  [.recv, .join] ++ turn ++ told .exchangeResults ++
    [.turn, .act, .collected, .write true, .clientRead (.ok (.sendResults peerResults)),
      .forward 0 true, .forward 0 true, .done]

/-- Everything a test with one stream does. -/
def oneStream : List Event :=
  opening.map .controller ++ twoReports.map (.task 0) ++ closing.map .controller

/-- The test with one stream, printed at its end. -/
def printedTest : List PrintoutEvent :=
  oneStream.map .side ++ [.print, .print, .print, .print, .atEnd]

theorem printedTest_runs : (run Printout.step sample printedTest).isSome = true := by
  decide +kernel

end Printout

end Iperf
