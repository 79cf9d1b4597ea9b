import Iperf.Controller.Numbered
import Iperf.NetUtil.Encoding
import Iperf.Session.Exchange

/-!
# The size of the messages of a test

`writeControlMessage` accepts what fits in 32 bits, `readControlMessage` refuses
what is above `maxControlMessageSize`.  No message of a test between the client
and the server comes between the two bounds.
-/

namespace Iperf

open Channel Transition

namespace Client

/-- What `startClient` writes to the control connection before its controller runs. -/
def startClientWrites (cookie : String) (opts : ClientOpts) : List ClientMessage :=
  [.hello cookie, .sendParameters (.fromOpts opts)]

/-- What the client is writing, to the control connection or to a data connection it
opens. -/
def writing (client : Controller) : List ClientMessage :=
  match client.pc with
  | .connecting _ => [.hello client.perf.cookie]
  | .writingResults none => [.sendResults client.streamResults]
  | _ => []

end Client

namespace Server

/-- What `createPerf` writes to the control connection. -/
def createPerfWrites : List ServerEnvelope :=
  [.message .welcome]

/-- What the controller is writing to the control connection. -/
def controllerWriting (test : Controller) : List ServerMessage :=
  match test.pc with
  | .announcing target => [.setState target]
  | .writingResults (some _) => [.sendResults test.streamResults]
  | _ => []

/-- What the accept loop is writing to a data connection. -/
def acceptWriting : AcceptPc → List ServerEnvelope
  | .welcoming _ => [.message .welcome]
  | .refusing _ _ => [.error .perfTestAlreadyInFlight]
  | _ => []

def writing (server : Server) : List ServerEnvelope :=
  (controllerWriting server.test).map .message ++ acceptWriting server.accept

end Server

theorem Client.fits_of_writing {client : Controller} (numbered : client.Numbered)
    (hyphenated : Hyphenated client.perf.cookie)
    (counters : ∀ entry ∈ client.streamResults.entries, Fit entry.2.counters)
    {message : ClientMessage} (written : message ∈ Client.writing client) : message.Fits := by
  cases pc : client.pc with
  | connecting total =>
      simp only [Client.writing, pc, List.mem_singleton] at written
      rw [written]
      exact hyphenated
  | writingResults remote =>
      cases remote with
      | none =>
          simp only [Client.writing, pc, List.mem_singleton] at written
          rw [written]
          exact ⟨numbered.results, counters⟩
      | some results => simp only [Client.writing, pc, List.not_mem_nil] at written
  | _ => simp only [Client.writing, pc, List.not_mem_nil] at written

theorem Server.fits_of_writing {test : Controller} (numbered : test.Numbered)
    (hyphenated : Hyphenated test.perf.cookie)
    (counters : ∀ entry ∈ test.streamResults.entries, Fit entry.2.counters)
    {message : ServerMessage} (written : message ∈ Server.controllerWriting test) :
    message.Fits := by
  unfold Server.controllerWriting at written
  split at written
  · rename_i target pc
    rw [List.mem_singleton.mp written]
    cases target with
    | createStreams cookie =>
        rw [← numbered.asking cookie pc] at hyphenated
        exact hyphenated
    | start | running | exchangeResults | terminate => trivial
  · rw [List.mem_singleton.mp written]
    exact ⟨numbered.results, counters⟩
  · cases written

namespace Session

variable {json : Json} {session next : Session} {event : SessionEvent}

/-- Both sides keep their results under values of the stream counter. -/
structure Counting (session : Session) : Prop where
  opening : Client.Opening session.client
  sound : session.server.Sound
  client : session.client.Numbered
  server : session.server.test.Numbered

theorem Counting.step (counting : session.Counting)
    (step : session.step json event = some next) : next.Counting := by
  constructor
  · rcases client_of_step step with same | ⟨event, moved⟩
    · rw [same]
      exact counting.opening
    · exact counting.opening.step moved
  · rcases server_of_step step with same | ⟨event, moved⟩
    · rw [same]
      exact counting.sound
    · exact counting.sound.step moved
  · cases trade_of_step step with
    | client event next own => exact counting.client.step counting.opening.registered own
    | clientReads message next own =>
        exact counting.client.step counting.opening.registered own
    | server event next own noRead client =>
        rw [client]
        exact counting.client
    | serverReads message next own client =>
        rw [client]
        exact counting.client
    | rest event next client => exact counting.client.rests client
  · cases trade_of_step step with
    | client event next own noRead server =>
        rw [server]
        exact counting.server
    | clientReads message next own server =>
        rw [server]
        exact counting.server
    | server event next own => exact counting.server.step counting.sound.registered own
    | serverReads message next own =>
        exact counting.server.step counting.sound.registered own
    | rest event next client server => exact counting.server.rests server

theorem counting_of_reachable {clientBuild serverBuild : Build} {cookie : String}
    {params : Parameters}
    (reachable : Reachable (Session.step json) (new clientBuild serverBuild cookie params)
      session) : session.Counting := by
  apply reachable.invariant Counting (fun _ _ _ counting step => counting.step step)
  constructor
  · exact Client.new_opening _ _ _
  · exact Server.new_sound _ rfl
  · exact Controller.new_numbered _ _
  · exact Controller.new_numbered _ _

/-! ## The bounds -/

/-- The counters both sides have gathered have 64 bits. -/
def Counted (session : Session) : Prop :=
  ∀ entry ∈ session.client.streamResults.entries ++ session.server.test.streamResults.entries,
    Fit entry.2.counters

/-- Whatever either side writes in a test, to the control connection or to a data
connection, is written and is not refused for its size. -/
theorem messages_carried (fromClient : List UInt8 → Option ClientEnvelope)
    (fromServer : List UInt8 → Option ServerEnvelope) (clientBuild serverBuild : Build)
    {cookie : String} (hyphenated : Hyphenated cookie) {opts : ClientOpts}
    (fit : Fit opts.counters) {session : Session}
    (reachable : Reachable (Session.step (.compact fromClient fromServer))
      (new clientBuild serverBuild cookie (.fromOpts opts)) session)
    (counted : session.Counted) :
    (∀ message ∈ Client.startClientWrites cookie opts ++ Client.writing session.client,
      Carries (Json.compact fromClient fromServer).client (.message message)) ∧
    ∀ envelope ∈ Server.createPerfWrites ++ Server.writing session.server,
      Carries (Json.compact fromClient fromServer).server envelope := by
  have counting := counting_of_reachable reachable
  constructor
  · intro message messageMem
    apply ClientMessage.carries
    rcases List.mem_append.mp messageMem with start | written
    · simp only [Client.startClientWrites, List.mem_cons, List.not_mem_nil, or_false] at start
      rcases start with same | same
      · rw [same]
        exact hyphenated
      · rw [same]
        exact ⟨opts, fit, rfl⟩
    · have own := Client.perf_of_reachable (client_reachable reachable)
      apply Client.fits_of_writing counting.client _ _ written
      · rw [own]
        exact hyphenated
      · exact fun entry entryMem => counted entry (List.mem_append_left _ entryMem)
  · intro envelope envelopeMem
    rcases List.mem_append.mp envelopeMem with start | written
    · rw [List.mem_singleton.mp start]
      exact ServerMessage.carries trivial
    · rcases List.mem_append.mp written with control | accept
      · rcases List.mem_map.mp control with ⟨message, messageMem, same⟩
        have own := Server.perf_of_reachable (server_reachable reachable)
        rw [← same]
        apply ServerMessage.carries
        apply Server.fits_of_writing counting.server _ _ messageMem
        · rw [own]
          exact hyphenated
        · exact fun entry entryMem => counted entry (List.mem_append_right _ entryMem)
      · unfold Server.acceptWriting at accept
        split at accept
        · rw [List.mem_singleton.mp accept]
          exact ServerMessage.carries trivial
        · rw [List.mem_singleton.mp accept]
          exact ServerError.carries _
        · cases accept

/-- A cookie as a client makes it, and encodings that know it. -/
def sampleCookie : String :=
  "67e55044-10b1-426f-9247-bb680e5fe0c8"

def sampleJson : Json :=
  .compact (Json.ofCookie sampleCookie).client.fromSlice
    (Json.ofCookie sampleCookie).server.fromSlice

private def writingTest : Option Session :=
  run (Session.step sampleJson)
    (new ⟨true, true⟩ ⟨true, true⟩ sampleCookie (.fromOpts { bidir := true }))
    (untilWriting sampleCookie)

private theorem writingTest_runs : writingTest.isSome = true := by
  decide +kernel

/-- The client of a test with one stream each way is about to send its map. -/
theorem messages_carried_two :
    ∃ (session : Session) (results : Results), results.entries.length = 2 ∧
      .sendResults results ∈ Client.writing session.client ∧
      Carries sampleJson.client (.message (.sendResults results)) := by
  have finished : writingTest = some (writingTest.get writingTest_runs) :=
    (Option.some_get writingTest_runs).symm
  have pc : (writingTest.get writingTest_runs).client.pc = .writingResults none := by
    decide +kernel
  have written : .sendResults (writingTest.get writingTest_runs).client.streamResults ∈
      Client.writing (writingTest.get writingTest_runs).client := by
    rw [Client.writing, pc]
    exact List.mem_singleton_self _
  have counted : (writingTest.get writingTest_runs).Counted := by
    unfold Counted
    decide +kernel
  have carried := messages_carried (Json.ofCookie sampleCookie).client.fromSlice
    (Json.ofCookie sampleCookie).server.fromSlice ⟨true, true⟩ ⟨true, true⟩
    (show Hyphenated sampleCookie by decide +kernel)
    (show Fit (ClientOpts.counters { bidir := true }) by decide)
    ⟨untilWriting sampleCookie, finished⟩ counted
  exact ⟨writingTest.get writingTest_runs, _, by decide +kernel, written,
    carried.1 _ (List.mem_append_right _ written)⟩

end Session

end Iperf
