import Iperf.Client.Core
import Iperf.NetUtil.Framing
import Iperf.Opts

/-!
# The client's place in the control stream

The client reads its control socket in `select!`, next to its mailbox and the
shutdown receiver.  A read that has begun lives only as long as the `select!`:
where another branch wins, the bytes it has taken are gone, and the next read
starts with whatever follows them.
-/

namespace Iperf

open Channel Transition

/-- The bytes of a sequence of messages. -/
def ServerMessage.stream (json : Json) (messages : List ServerMessage) : List UInt8 :=
  messages.flatMap fun message => frame json.server (.message message)

namespace Client

/-- The client with its control socket.  What the server has written, what the
client has taken from the socket and what it made of it are recorded. -/
structure Link where
  client : Controller
  /-- The read in progress, or to come. -/
  reader : Reader
  /-- The bytes in the socket. -/
  arrived : List UInt8
  /-- The bytes on the way. -/
  inFlight : List UInt8
  written : List ServerMessage
  consumed : List UInt8
  decoded : List ServerMessage

inductive LinkEvent where
  /-- The client moves, but for its reads of the control socket. -/
  | client (event : ClientEvent)
  /-- The server writes a message. -/
  | write (message : ServerMessage)
  /-- Some of the bytes on the way arrive. -/
  | arrive (count : Nat)
  /-- The read in progress takes some bytes. -/
  | read (count : Nat)
  /-- The read in progress fails. -/
  | broken (cause : NetUtilError)

namespace Link

def new (build : Build) (cookie : String) (params : Parameters) : Link :=
  { client := Client.new build cookie params
    reader := .fresh
    arrived := []
    inFlight := []
    written := []
    consumed := []
    decoded := [] }

/-- The client is awaiting a message on the control socket. -/
def reading (link : Link) : Bool :=
  match link.client.pc with
  | .selecting => true
  | .readingResults => true
  | _ => false

/-- The client goes on without the read in progress. -/
def moveOn (link : Link) (client : Controller) : Link :=
  { link with client, reader := .fresh }

/-- A read has ended. -/
def finishRead (link : Link) (outcome : Except Error ServerMessage) : Option Link :=
  (link.client.controllerStep (.clientRead outcome)).map fun client =>
    match outcome with
    | .ok message => { link.moveOn client with decoded := link.decoded ++ [message] }
    | .error _ => link.moveOn client

/-- The read in progress takes `chunk`. -/
def consume (json : Json) (link : Link) (chunk : List UInt8) : Option Link :=
  match link.reader.consume json.server chunk with
  | .more reader => some { link with reader }
  | .done result => link.finishRead (clientMessageOf result)
  | .panicked => some (link.moveOn (link.client.finish .panicked))

def step (json : Json) (link : Link) : LinkEvent → Option Link
  | .client (.controller (.clientRead _)) => none
  | .client (.controller event) =>
      (link.client.controllerStep event).map fun client => link.moveOn client
  | .client event => (Client.step link.client event).map fun client => { link with client }
  | .write message =>
      (writeControlMessage json.server (.message message)).map fun bytes =>
        { link with
          inFlight := link.inFlight ++ bytes
          written := link.written ++ [message] }
  | .arrive count =>
      some { link with
        arrived := link.arrived ++ link.inFlight.take count
        inFlight := link.inFlight.drop count }
  | .read count =>
      if link.reading ∧ 0 < count ∧ count ≤ link.reader.wanted ∧
          count ≤ link.arrived.length then
        { link with
          arrived := link.arrived.drop count
          consumed := link.consumed ++ link.arrived.take count
          }.consume json (link.arrived.take count)
      else none
  | .broken cause =>
      if link.reading then link.finishRead (.error (.clientReadError cause)) else none

/-- `select!` is left for another branch only before the read has taken a byte. -/
def Uncut (link : Link) (event : LinkEvent) : Prop :=
  ∀ own, event = .client (.controller own) → link.client.pc = .selecting →
    link.reader = .fresh

variable {json : Json} {link next : Link} {event : LinkEvent}

open ServerMessage

/-- The encoding of every message that has been written is read back. -/
def Understood (json : Json) (link : Link) : Prop :=
  ∀ message ∈ link.written,
    json.server.fromSlice (json.server.toVec (.message message)) = some (.message message)

/-- What the client has taken from the socket is a number of whole messages. -/
def AtBoundary (json : Json) (link : Link) : Prop :=
  ∃ count, link.consumed = stream json (link.written.take count)

/-- The client knows where it is in the control stream. -/
structure Placed (json : Json) (link : Link) : Prop where
  role : link.client.perf.role = .client
  bytes : link.consumed ++ link.arrived ++ link.inFlight = stream json link.written
  fits : ∀ message ∈ link.written,
    (json.server.toVec (.message message)).length ≤ u32Max
  before : link.decoded <+: link.written
  place : link.client.alive = true → ∃ part, link.consumed = stream json link.decoded ++ part ∧
    link.reader.Holds part ∧ (link.reading = false → part = [])

theorem new_placed (json : Json) (build : Build) (cookie : String) (params : Parameters) :
    (new build cookie params).Placed json where
  role := rfl
  bytes := rfl
  fits := fun _ messageMem => absurd messageMem List.not_mem_nil
  before := List.prefix_refl _
  place := fun _ => ⟨[], rfl, Reader.fresh_holds, fun _ => rfl⟩

@[simp]
theorem stream_append (json : Json) (first second : List ServerMessage) :
    stream json (first ++ second) = stream json first ++ stream json second :=
  List.flatMap_append

@[simp]
theorem stream_singleton (json : Json) (message : ServerMessage) :
    stream json [message] = frame json.server (.message message) :=
  List.flatMap_singleton _ _

/-- A read that fails ends the client. -/
theorem ended_of_failed_read {client next : Controller} {error : Error}
    (step : client.controllerStep (.clientRead (.error error)) = some next) :
    next.alive = false := by
  simp only [Controller.controllerStep] at step
  split at step
  · cases pc : client.pc with
    | selecting | readingResults =>
        rw [pc] at step
        cases step
        rfl
    | _ => simp [pc] at step
  · cases step

/-- Where the client moves with no read in progress, its place is kept. -/
private theorem Placed.moveOn (placed : link.Placed json) {client : Controller}
    (perf : client.perf = link.client.perf)
    (between : client.alive = true → link.consumed = stream json link.decoded) :
    (link.moveOn client).Placed json where
  role := perf ▸ placed.role
  bytes := placed.bytes
  fits := placed.fits
  before := placed.before
  place := fun alive => by
    refine ⟨[], ?_, Reader.fresh_holds, fun _ => rfl⟩
    rw [List.append_nil]
    exact between alive

/-- The client is at a message boundary when `select!` is left uncut, and wherever
it does not read. -/
private theorem Placed.boundary (placed : link.Placed json) {own : ControllerEvent}
    {client : Controller} (uncut : link.Uncut (.client (.controller own)))
    (noRead : ∀ outcome, own ≠ .clientRead outcome)
    (step : link.client.controllerStep own = some client) :
    link.consumed = stream json link.decoded := by
  have alive := (Controller.move_of_controllerStep step).alive
  obtain ⟨part, consumed, holds, unread⟩ := placed.place alive
  have none : part = [] := by
    cases pc : link.client.pc with
    | selecting =>
        have fresh := uncut own rfl pc
        rw [fresh] at holds
        exact holds.1
    | readingResults =>
        have role := placed.role
        cases own <;> simp_all [Controller.controllerStep]
    | _ => exact unread (by simp [reading, pc])
  rw [consumed, none, List.append_nil]

/-- The message the client is reading is the next one the server has written. -/
private theorem Placed.next_message (placed : link.Placed json) {part chunk later : List UInt8}
    (consumed : link.consumed = stream json link.decoded ++ part)
    (holds : link.reader.Holds part) (some : chunk ≠ [])
    (bounded : chunk.length ≤ link.reader.wanted)
    (available : link.arrived ++ link.inFlight = chunk ++ later) :
    ∃ message rest, link.decoded ++ [message] <+: link.written ∧
      (json.server.toVec (.message message)).length ≤ u32Max ∧
      part ++ chunk ++ rest = frame json.server (.message message) := by
  obtain ⟨pending, written⟩ := placed.before
  have bytes := placed.bytes
  rw [← written, stream_append, consumed, List.append_assoc, List.append_assoc, available]
    at bytes
  have remaining := List.append_cancel_left bytes
  cases pending with
  | nil =>
      have none := congrArg List.length remaining
      have positive := List.length_pos_of_ne_nil some
      simp only [stream, List.flatMap_nil, List.length_append, List.length_nil] at none
      omega
  | cons message pending =>
      have fits := placed.fits message (by rw [← written]; simp)
      have cut : part ++ chunk ++ later = putU32 (json.server.toVec (.message message)).length ++
          json.server.toVec (.message message) ++ stream json pending := by
        rw [List.append_assoc]
        exact remaining
      obtain ⟨rest, whole, -⟩ := holds.within fits bounded cut
      refine ⟨message, rest, ⟨pending, ?_⟩, fits, whole⟩
      rw [List.append_assoc]
      exact written

/-- The end of a read. -/
private theorem Placed.finishRead {source : Link} {message : ServerMessage}
    (role : link.client.perf.role = .client)
    (bytes : link.consumed ++ link.arrived ++ link.inFlight = stream json link.written)
    (fits : ∀ message ∈ link.written,
      (json.server.toVec (.message message)).length ≤ u32Max)
    (before : source.decoded ++ [message] <+: link.written)
    (decoded : link.decoded = source.decoded)
    (consumed : link.consumed = stream json (source.decoded ++ [message]))
    (finished : link.finishRead (.ok message) = some next) : next.Placed json := by
  obtain ⟨client, moved, result⟩ := Option.map_eq_some_iff.mp finished
  subst result
  have perf := (Controller.move_of_controllerStep moved).perf
  constructor
  · exact (congrArg Perf.role perf).trans role
  · exact bytes
  · exact fits
  · exact decoded ▸ before
  · intro _
    refine ⟨[], ?_, Reader.fresh_holds, fun _ => rfl⟩
    simp only [List.append_nil, decoded]
    exact consumed

/-- A read that fails leaves nothing to be kept. -/
private theorem Placed.failRead {error : Error}
    (role : link.client.perf.role = .client)
    (bytes : link.consumed ++ link.arrived ++ link.inFlight = stream json link.written)
    (fits : ∀ message ∈ link.written,
      (json.server.toVec (.message message)).length ≤ u32Max)
    (before : link.decoded <+: link.written)
    (finished : link.finishRead (.error error) = some next) : next.Placed json := by
  obtain ⟨client, moved, result⟩ := Option.map_eq_some_iff.mp finished
  subst result
  have perf := (Controller.move_of_controllerStep moved).perf
  constructor
  · exact (congrArg Perf.role perf).trans role
  · exact bytes
  · exact fits
  · exact before
  · intro alive
    have ended := ended_of_failed_read moved
    simp only [Link.moveOn] at alive
    rw [ended] at alive
    cases alive

/-- A piece of a message is taken. -/
private theorem Placed.read (placed : link.Placed json) {count : Nat}
    (roundTrip : link.Understood json)
    (reads : link.reading = true) (positive : 0 < count)
    (bounded : count ≤ link.reader.wanted) (available : count ≤ link.arrived.length)
    (step : Link.consume json { link with
      arrived := link.arrived.drop count
      consumed := link.consumed ++ link.arrived.take count } (link.arrived.take count) =
        some next) : next.Placed json := by
  have alive : link.client.alive = true := by
    unfold reading at reads
    unfold Controller.alive
    split at reads <;> simp_all
  obtain ⟨part, consumed, holds, -⟩ := placed.place alive
  have length : (link.arrived.take count).length = count := List.length_take_of_le available
  have some : link.arrived.take count ≠ [] := by
    intro none
    rw [none, List.length_nil] at length
    omega
  have split : link.arrived ++ link.inFlight =
      link.arrived.take count ++ (link.arrived.drop count ++ link.inFlight) := by
    rw [← List.append_assoc, List.take_append_drop]
  obtain ⟨message, rest, before, fits, whole⟩ :=
    placed.next_message consumed holds some (length.trans_le bounded) split
  have bytes : link.consumed ++ link.arrived.take count ++ link.arrived.drop count ++
      link.inFlight = stream json link.written := by
    rw [List.append_assoc link.consumed, List.take_append_drop]
    exact placed.bytes
  have decodes : json.server.decode (json.server.toVec (.message message)) =
      .ok (.message message) := by
    simp only [Codec.decode, roundTrip message (before.subset (by simp))]
  rcases holds.consume json.server fits whole (length.trans_le bounded) with
    ⟨-, reader, more, held⟩ | ⟨none, -, done⟩ | ⟨-, -, tooLarge⟩
  · simp only [Link.consume, more] at step
    cases step
    constructor
    · exact placed.role
    · exact bytes
    · exact placed.fits
    · exact placed.before
    · intro _
      refine ⟨part ++ link.arrived.take count, ?_, held, ?_⟩
      · rw [consumed, List.append_assoc]
      · intro idle
        simp only [reading] at idle reads
        rw [reads] at idle
        cases idle
  · simp only [Link.consume, done, decodes, clientMessageOf] at step
    have taken : link.consumed ++ link.arrived.take count =
        stream json (link.decoded ++ [message]) := by
      rw [stream_append, stream_singleton, ← whole, none, List.append_nil, consumed,
        List.append_assoc]
    exact @Placed.finishRead json { link with
      arrived := link.arrived.drop count
      consumed := link.consumed ++ link.arrived.take count } next link message
      placed.role bytes placed.fits before rfl taken step
  · simp only [Link.consume, tooLarge, clientMessageOf] at step
    exact @Placed.failRead json { link with
      arrived := link.arrived.drop count
      consumed := link.consumed ++ link.arrived.take count } next _
      placed.role bytes placed.fits placed.before step

/-- A step that leaves no read half done keeps the client's place. -/
theorem Placed.step (placed : link.Placed json)
    (roundTrip : link.Understood json)
    (uncut : link.Uncut event) (step : link.step json event = some next) :
    next.Placed json := by
  cases event with
  | client event =>
      cases event with
      | controller own =>
          have noRead : ∀ outcome, own ≠ .clientRead outcome := by
            rintro outcome rfl
            cases step
          have moves : (link.client.controllerStep own).map (fun client => link.moveOn client) =
              some next := by
            cases own with
            | clientRead outcome => exact absurd rfl (noRead outcome)
            | _ => exact step
          obtain ⟨client, moved, result⟩ := Option.map_eq_some_iff.mp moves
          subst result
          exact placed.moveOn (Controller.move_of_controllerStep moved).perf
            fun _ => placed.boundary uncut noRead moved
      | task index event =>
          obtain ⟨client, moved, result⟩ := Option.map_eq_some_iff.mp step
          subst result
          have frame := (Controller.move_of_taskStep moved).frame
          constructor
          · exact frame.perf ▸ placed.role
          · exact placed.bytes
          · exact placed.fits
          · exact placed.before
          · simp only [Controller.alive, reading, frame.pc]
            exact placed.place
      | ctrlC =>
          obtain ⟨client, moved, result⟩ := Option.map_eq_some_iff.mp step
          subst result
          cases move_of_step moved with
          | ctrlC quiet =>
              exact ⟨placed.role, placed.bytes, placed.fits, placed.before, placed.place⟩
  | write message =>
      obtain ⟨bytes, wrote, result⟩ := Option.map_eq_some_iff.mp step
      subst result
      obtain ⟨fits, rfl⟩ := frame_of_write wrote
      constructor
      · exact placed.role
      · simp only [stream_append, stream_singleton, ← placed.bytes, List.append_assoc]
      · intro other otherMem
        rcases List.mem_append.mp otherMem with old | new
        · exact placed.fits other old
        · rw [List.mem_singleton.mp new]
          exact fits
      · exact placed.before.trans (List.prefix_append _ _)
      · exact placed.place
  | arrive count =>
      cases step
      constructor
      · exact placed.role
      · rw [← placed.bytes]
        simp only [List.append_assoc, List.take_append_drop]
      · exact placed.fits
      · exact placed.before
      · exact placed.place
  | read count =>
      simp only [Link.step] at step
      split at step
      · rename_i enabled
        exact placed.read roundTrip enabled.1 enabled.2.1 enabled.2.2.1 enabled.2.2.2 step
      · cases step
  | broken cause =>
      simp only [Link.step] at step
      split at step
      · exact Placed.failRead placed.role placed.bytes placed.fits placed.before step
      · cases step

/-- A client that knows its place is at a boundary unless a read is half done. -/
theorem Placed.atBoundary_iff (placed : link.Placed json)
    (alive : link.client.alive = true) : link.AtBoundary json ↔ link.reader = .fresh := by
  obtain ⟨part, consumed, holds, -⟩ := placed.place alive
  obtain ⟨pending, written⟩ := placed.before
  constructor
  · rintro ⟨count, boundary⟩
    suffices none : part = [] from Reader.eq_fresh_of_holds (none ▸ holds)
    have bytes := placed.bytes
    rw [← written, stream_append, consumed, List.append_assoc, List.append_assoc] at bytes
    have remaining := List.append_cancel_left bytes
    cases pending with
    | nil =>
        simp only [stream, List.flatMap_nil, List.append_eq_nil_iff] at remaining
        exact remaining.1
    | cons message pending =>
        have fits := placed.fits message (by rw [← written]; simp)
        have cut : part ++ [] ++ (link.arrived ++ link.inFlight) =
            putU32 (json.server.toVec (.message message)).length ++
              json.server.toVec (.message message) ++ stream json pending := by
          rw [List.append_nil]
          exact remaining
        obtain ⟨rest, whole, -⟩ := holds.within fits (Nat.zero_le _) cut
        rw [List.append_nil] at whole
        have more := List.length_pos_of_ne_nil (holds.unfinished fits whole)
        have short := congrArg List.length whole
        rw [consumed, ← written, List.take_append] at boundary
        cases later : count - link.decoded.length with
        | zero =>
            rw [later, List.take_zero, List.append_nil] at boundary
            have length := congrArg List.length boundary
            have bound : (stream json (link.decoded.take count)).length ≤
                (stream json link.decoded).length := by
              conv_rhs => rw [← List.take_append_drop count link.decoded, stream_append]
              rw [List.length_append]
              exact Nat.le_add_right _ _
            rw [List.length_append] at length
            exact List.eq_nil_of_length_eq_zero (by omega)
        | succ extra =>
            have all : link.decoded.take count = link.decoded :=
              List.take_of_length_le (by omega)
            rw [later, all, List.take_succ_cons, stream_append] at boundary
            have same := congrArg List.length (List.append_cancel_left boundary)
            simp only [stream, List.flatMap_cons, frame, List.length_append] at same short
            omega
  · intro fresh
    rw [fresh] at holds
    refine ⟨link.decoded.length, ?_⟩
    rw [← written, List.take_left', consumed, holds.1]
    · exact List.append_nil _
    · rfl

private theorem written_of_finishRead {outcome : Except Error ServerMessage}
    (finished : link.finishRead outcome = some next) : next.written = link.written := by
  obtain ⟨client, -, result⟩ := Option.map_eq_some_iff.mp finished
  subst result
  cases outcome <;> rfl

/-- Only the server writes, and nothing is taken back. -/
theorem written_prefix_of_step (step : link.step json event = some next) :
    link.written <+: next.written := by
  suffices written : next.written = link.written ∨
      ∃ message, next.written = link.written ++ [message] by
    rcases written with same | ⟨message, added⟩
    · rw [same]
    · rw [added]
      exact List.prefix_append _ _
  cases event with
  | client event =>
      left
      cases event with
      | controller own =>
          cases own with
          | clientRead outcome => cases step
          | _ =>
              obtain ⟨client, -, result⟩ := Option.map_eq_some_iff.mp step
              subst result
              rfl
      | task index event | ctrlC =>
          obtain ⟨client, -, result⟩ := Option.map_eq_some_iff.mp step
          subst result
          rfl
  | write message =>
      obtain ⟨bytes, -, result⟩ := Option.map_eq_some_iff.mp step
      subst result
      exact .inr ⟨message, rfl⟩
  | arrive count =>
      cases step
      exact .inl rfl
  | read count =>
      left
      simp only [Link.step] at step
      split at step
      · simp only [Link.consume] at step
        split at step
        · cases step
          rfl
        · exact @written_of_finishRead { link with
            arrived := link.arrived.drop count
            consumed := link.consumed ++ link.arrived.take count } next _ step
        · cases step
          rfl
      · cases step
  | broken cause =>
      left
      simp only [Link.step] at step
      split at step
      · exact written_of_finishRead step
      · cases step

/-- As long as `select!` is never left in the middle of a read, the client decodes
what the server has written, in order, and every read starts with a length.  If
`select!` is left with a read half done, the client is no longer at a message
boundary. -/
theorem control_stream_in_place (json : Json) (build : Build) (cookie : String)
    (params : Parameters) {events : List LinkEvent} {link : Link}
    (finished : run (Link.step json) (Link.new build cookie params) events = some link)
    (understood : link.Understood json)
    (uncut : Guarded (Link.step json) Uncut (Link.new build cookie params) events) :
    link.decoded <+: link.written ∧
      (link.client.alive = true → link.reader = .fresh →
        link.consumed = stream json link.decoded) ∧
      ∀ own next, link.client.pc = .selecting →
        link.step json (.client (.controller own)) = some next →
        (next.AtBoundary json ↔ link.Uncut (.client (.controller own))) := by
  have placed : link.Placed json := by
    apply run_invariant_while (Understood json) (Placed json) _ _
      (new_placed json build cookie params) uncut finished understood
    · intro source event target step understood message messageMem
      exact understood message ((written_prefix_of_step step).subset messageMem)
    · intro source event target placed understood _ uncut step
      exact placed.step understood uncut step
  constructor
  · exact placed.before
  constructor
  · intro alive fresh
    obtain ⟨part, consumed, holds, -⟩ := placed.place alive
    rw [fresh] at holds
    rw [consumed, holds.1]
    exact List.append_nil _
  · intro own next pc step
    have alive : link.client.alive = true := by simp [Controller.alive, pc]
    have same : next.AtBoundary json ↔ link.AtBoundary json := by
      cases own with
      | clientRead outcome => cases step
      | _ =>
          obtain ⟨client, -, result⟩ := Option.map_eq_some_iff.mp step
          subst result
          exact Iff.rfl
    rw [same, placed.atBoundary_iff alive]
    constructor
    · exact fun fresh _ _ _ => fresh
    · exact fun uncut => uncut own rfl pc

/-- A client that has just been connected. -/
def sample : Link :=
  new ⟨true, true⟩ "c" (.fromOpts {})

/-- A message is written and arrives; it is read in two pieces. -/
private def delivery (message : ServerMessage) : List LinkEvent :=
  [.write message, .arrive 100, .read 4,
    .read ((Json.ofCookie "c").server.toVec (.message message)).length]

private def turn : List LinkEvent :=
  [.client (.controller .turn), .client (.controller .act), .client (.controller .poll)]

theorem control_stream_in_place_one :
    ∃ link, run (Link.step (.ofCookie "c")) sample
        ([.client (.controller .start)] ++ turn ++ delivery (.setState .running)) = some link ∧
      link.written = [.setState .running] ∧ link.decoded <+: [.setState .running] ∧
      link.consumed = stream (.ofCookie "c") link.decoded := by
  let events : List LinkEvent :=
    [.client (.controller .start)] ++ turn ++ delivery (.setState .running)
  let observe : Link → List ServerMessage × Reader × Bool := fun link =>
    (link.written, link.reader, link.client.alive)
  have observed : (run (Link.step (.ofCookie "c")) sample events).map observe =
      some ([.setState .running], .fresh, true) := rfl
  obtain ⟨link, finished, result⟩ := Option.map_eq_some_iff.mp observed
  simp only [observe, Prod.mk.injEq] at result
  obtain ⟨written, fresh, alive⟩ := result
  have understood : link.Understood (.ofCookie "c") := by
    intro message messageMem
    rw [written, List.mem_singleton] at messageMem
    subst messageMem
    rfl
  have uncut : Guarded (Link.step (.ofCookie "c")) Uncut sample events := by
    constructor
    · exact fun _ _ pc => (by cases pc)
    · intro _ step
      cases step
      constructor
      · exact fun _ _ pc => (by cases pc)
      · intro _ step
        cases step
        constructor
        · exact fun _ _ pc => (by cases pc)
        · intro _ step
          cases step
          constructor
          · exact fun _ _ pc => (by cases pc)
          · intro _ step
            cases step
            constructor
            · exact fun _ own => by (cases own)
            · intro _ _
              constructor
              · exact fun _ own => by (cases own)
              · intro _ _
                constructor
                · exact fun _ own => by (cases own)
                · intro _ _
                  exact ⟨fun _ own => by (cases own), fun _ _ => trivial⟩
  have placed := control_stream_in_place (.ofCookie "c") ⟨true, true⟩ "c" (.fromOpts {})
    finished understood uncut
  exact ⟨link, finished, written, written ▸ placed.1, placed.2.1 alive fresh⟩

/-- The length of a message has been read when a stream ends.  The client goes on
with the payload, and takes its first four bytes for a length. -/
theorem split_message_misread :
    ∃ link, Reachable (Link.step (.ofCookie "c")) sample link ∧
      link.Understood (.ofCookie "c") ∧
      link.written = [.setState (.createStreams "c"), .setState .running,
        .setState .exchangeResults] ∧
      link.client.pc = .ended (.returned
        (.error (.clientReadError (.controlMessageTooLarge 2065845605)))) := by
  let events : List LinkEvent :=
    [.client (.controller .start)] ++ turn ++
      delivery (.setState (.createStreams "c")) ++
      [.client (.controller .store), .client (.controller .turn), .client (.controller .act),
        .client (.controller (.connect (.ok ⟨0⟩))),
        .client (.controller (.reply (.ok .welcome))), .client (.controller .poll)] ++
      delivery (.setState .running) ++ [.client (.controller .store)] ++ turn ++
      [.client (.task 0 (.work (.signal 0 0))), .client (.task 0 (.work (.head 10000000001))),
        .client (.task 0 (.work (.leave 0 none))), .client (.task 0 (.work (.sent true))),
        .client (.task 0 (.work (.summarize 0 none))), .client (.task 0 .post),
        .client (.task 0 .finish), .write (.setState .exchangeResults), .arrive 100, .read 4,
        .client (.controller .recv), .client (.controller .join)] ++ turn ++ [.read 4]
  let observe : Link → List ServerMessage × Pc := fun link => (link.written, link.client.pc)
  have observed : (run (Link.step (.ofCookie "c")) sample events).map observe =
      some ([.setState (.createStreams "c"), .setState .running, .setState .exchangeResults],
        .ended (.returned
          (.error (.clientReadError (.controlMessageTooLarge 2065845605))))) := rfl
  obtain ⟨link, finished, result⟩ := Option.map_eq_some_iff.mp observed
  simp only [observe, Prod.mk.injEq] at result
  refine ⟨link, ⟨events, finished⟩, ?_, result⟩
  intro message messageMem
  rw [result.1] at messageMem
  simp only [List.mem_cons, List.not_mem_nil, or_false] at messageMem
  rcases messageMem with rfl | rfl | rfl <;> rfl

end Link

end Client

end Iperf
