import Iperf.NetUtil.Read
import Iperf.Session.Refusal
import Iperf.Visit.Step

/-!
# What is known at the server of a client program

The connections are told apart by their numbers, and what arrives on the client's is what
the client has written to them.  As long as nobody else presents the client's cookie, a
connection that is taken for a client with that cookie is the client's, and its control
connection is asked for the parameters of the client.
-/

namespace Iperf

open Channel Transition

/-! ## Reading a first part of what has been written -/

/-- The server understands what the client says. -/
def Understands (json : Json) (message : ClientMessage) : Prop :=
  json.client.fromSlice (json.client.toVec (.message message)) = some (.message message) ∧
    (json.client.toVec (.message message)).length ≤ maxControlMessageSize

theorem Reader.feed_rest {α : Type} {codec : Codec α} {reader last : Reader} {bytes : List UInt8}
    (waits : (reader.feed codec bytes).1 = .more last) : (reader.feed codec bytes).2 = [] := by
  induction bytes generalizing reader with
  | nil => rfl
  | cons byte rest ih =>
      simp only [feed] at waits ⊢
      cases step : reader.consume codec [byte] with
      | more next =>
          rw [step] at waits
          exact ih waits
      | done result =>
          rw [step] at waits
          cases waits
      | panicked =>
          rw [step] at waits
          cases waits

/-- Nothing is left of a frame when it has been read, or has not arrived yet. -/
theorem feed_rest_first {json : Json} {message : ClientMessage}
    (understands : Understands json message) {bytes tail : List UInt8}
    (first : bytes <+: frame json.client (.message message) ++ tail) :
    (Reader.fresh.feed json.client bytes).2 <+: tail := by
  rcases first with ⟨more, whole⟩
  by_cases waits : ∃ last, (Reader.fresh.feed json.client bytes).1 = .more last
  · rcases waits with ⟨last, waits⟩
    rw [Reader.feed_rest waits]
    exact List.nil_prefix
  · have ended := Reader.feed_append (fun last same => waits ⟨last, same⟩) more
    rw [whole, feed_frame understands.1 understands.2] at ended
    exact ⟨more, (Prod.mk.inj ended).2.symm⟩

/-- Whatever is read is the message. -/
theorem serverReadMessage_first {json : Json} {message heard : ClientMessage}
    (understands : Understands json message) {peer : Peer} {tail : List UInt8}
    (first : peer.bytes <+: frame json.client (.message message) ++ tail)
    (read : serverReadMessage json peer = .done (.ok heard)) : heard = message := by
  rcases first with ⟨more, whole⟩
  by_cases waits : ∃ last, (Reader.fresh.feed json.client peer.bytes).1 = .more last
  · rcases waits with ⟨last, waits⟩
    simp only [serverReadMessage, waits] at read
    split at read <;> cases read
  · have ended := Reader.feed_append (fun last same => waits ⟨last, same⟩) more
    rw [whole, feed_frame understands.1 understands.2] at ended
    have result := (Prod.mk.inj ended).1
    simp only [serverReadMessage, ← result, serverMessageOf] at read
    cases read
    rfl

theorem readCookie_first {json : Json} {cookie heard : String}
    (understands : Understands json (.hello cookie)) {peer : Peer} {tail : List UInt8}
    (first : peer.bytes <+: frame json.client (.message (.hello cookie)) ++ tail)
    (read : readCookie json peer = .done (.ok heard)) : heard = cookie := by
  unfold readCookie at read
  split at read
  · cases read
  · cases read
  · rename_i said message
    cases read
    cases serverReadMessage_first understands first message
    rfl
  · cases read
  · cases read

/-- A read that ends has the whole message. -/
theorem readCookie_ended {json : Json} {cookie : String}
    (understands : Understands json (.hello cookie)) {peer : Peer}
    (first : peer.bytes <+: frame json.client (.message (.hello cookie)))
    (whole : peer.closed = true → peer.bytes = frame json.client (.message (.hello cookie)))
    (read : readCookie json peer ≠ .waiting) : readCookie json peer = .done (.ok cookie) := by
  by_cases waits : ∃ last, (Reader.fresh.feed json.client peer.bytes).1 = .more last
  · rcases waits with ⟨last, waits⟩
    cases closed : peer.closed with
    | true =>
        apply readCookie_hello understands.1 understands.2 peer []
        rw [whole closed, List.append_nil]
    | false =>
        apply absurd _ read
        simp only [readCookie, serverReadMessage, waits, closed, Bool.false_eq_true, if_false]
  · rcases first with ⟨more, same⟩
    have ended := Reader.feed_append (fun last same => waits ⟨last, same⟩) more
    have all := feed_frame understands.1 understands.2 []
    rw [List.append_nil, ← same, ended] at all
    simp only [readCookie, serverReadMessage, (Prod.mk.inj all).1, serverMessageOf]

namespace Visit

variable {json : Json} {caller : Caller} {visit next : Visit}

/-- One of the client's connections. -/
def IsOwn (visit : Visit) (stream : TcpStream) : Prop :=
  visit.control = some stream ∨ stream ∈ visit.opened

/-- Nobody else presents the client's cookie. -/
def Private (json : Json) (caller : Caller) (visit : Visit) : Prop :=
  ∀ inbound ∈ visit.host.accept.inHand, ¬visit.IsOwn inbound.stream →
    readCookie json inbound.peer ≠ .done (.ok caller.cookie)

/-- No data connection has been taken for a new client. -/
def Undisturbed (visit : Visit) : Prop :=
  ∀ stream ∈ visit.opened, stream ∉ visit.greeted

/-! ## The connections -/

/-- The numbers of the connections tell them apart. -/
structure Distinct (visit : Visit) : Prop where
  waiting : ∀ stream ∈ visit.backlog, stream.id < visit.nextId
  distinct : visit.backlog.Nodup
  inHand : ∀ inbound ∈ visit.host.accept.inHand, visit.current = some inbound.stream
  current : ∀ stream, visit.current = some stream →
    stream.id < visit.nextId ∧ stream ∉ visit.backlog
  control : ∀ stream, visit.control = some stream →
    stream.id < visit.nextId ∧ stream ∉ visit.opened
  opened : ∀ stream ∈ visit.opened, stream.id < visit.nextId
  undialed : visit.startup = .dialing → visit.control = none
  welcomed : ∀ stream, (stream, Reply.welcome) ∈ visit.host.replies → stream.id < visit.nextId

theorem new_distinct (build : Build) : (new build).Distinct where
  waiting := by rintro stream ⟨⟩
  distinct := .nil
  inHand := by rintro inbound ⟨⟩
  current := by rintro stream ⟨⟩
  control := by rintro stream ⟨⟩
  opened := by rintro stream ⟨⟩
  undialed := fun _ => rfl
  welcomed := by rintro stream ⟨⟩

/-- The connection at work after a step of the server. -/
theorem inHand_of_turn {host : Host} {event : HostEvent} {accept : HostPc}
    (turn : host.Turn json event accept) : ∀ inbound ∈ accept.inHand,
      inbound ∈ host.accept.inHand ∨ event = .accept inbound ∨
        ∃ before ∈ host.accept.inHand, ∃ bytes closed, event = .arrive bytes closed ∧
          inbound = before.receive bytes closed := by
  intro inbound inboundMem
  cases turn with
  | still => exact .inl inboundMem
  | signal shutdown pc creating => exact .inl (creating ▸ inboundMem)
  | back | finish | crash => cases inboundMem
  | enter test sender other idle | start shutdown other idle =>
      exact .inr (.inl (List.mem_singleton.mp inboundMem ▸ rfl))
  | handle event test sender pc later handling fewer =>
      exact .inl (handling ▸ fewer inbound inboundMem)
  | receive bytes closed test sender other cookie reading
  | receiveHello bytes closed shutdown other reading
  | receiveParams bytes closed shutdown other cookie reading =>
      refine .inr (.inr ⟨other, reading ▸ List.mem_singleton_self _, bytes, closed, rfl, ?_⟩)
      exact List.mem_singleton.mp inboundMem
  | welcoming shutdown other cookie reading | awaiting shutdown other cookie reading =>
      exact .inl (reading ▸ inboundMem)
  | asked => cases inboundMem

/-- A step that opens no connection and yields none. -/
theorem Distinct.keep (distinct : visit.Distinct)
    (inHand : ∀ inbound ∈ next.host.accept.inHand, visit.current = some inbound.stream)
    (backlog : next.backlog = visit.backlog) (current : next.current = visit.current)
    (control : next.control = visit.control) (opened : next.opened = visit.opened)
    (nextId : next.nextId = visit.nextId) (undialed : next.startup = .dialing →
      visit.startup = .dialing)
    (welcomed : ∀ stream, (stream, Reply.welcome) ∈ next.host.replies →
      stream.id < visit.nextId) : next.Distinct := by
  constructor
  · rw [backlog, nextId]
    exact distinct.waiting
  · rw [backlog]
    exact distinct.distinct
  · rw [current]
    exact inHand
  · rw [current, nextId, backlog]
    exact distinct.current
  · rw [control, nextId, opened]
    exact distinct.control
  · rw [opened, nextId]
    exact distinct.opened
  · rw [control]
    exact fun dialing => distinct.undialed (undialed dialing)
  · rw [nextId]
    exact welcomed

/-- The server moves, and yields no connection. -/
theorem Distinct.host (distinct : visit.Distinct) (busy : visit.host.Busy) {event : HostEvent}
    (noAccept : ∀ inbound, event ≠ .accept inbound)
    (step : visit.host.step json event = some next.host) :
    ∀ inbound ∈ next.host.accept.inHand, visit.current = some inbound.stream := by
  intro inbound inboundMem
  rcases inHand_of_turn (Host.turn_of_step busy step) inbound inboundMem with
    same | accepts | ⟨before, beforeMem, bytes, closed, -, rfl⟩
  · exact distinct.inHand inbound same
  · exact absurd accepts (noAccept inbound)
  · exact distinct.inHand before beforeMem

/-- A connection is welcomed while it is at work on. -/
theorem Distinct.answers (distinct : visit.Distinct) {event : HostEvent} {host : Host}
    (step : visit.host.step json event = some host) :
    ∀ stream, (stream, Reply.welcome) ∈ host.replies → stream.id < visit.nextId := by
  intro stream welcome
  rcases Host.welcomed_of_step step welcome with before | ⟨test, sender, inbound, standing, rfl⟩
  · exact distinct.welcomed stream before
  · apply (distinct.current _ (distinct.inHand inbound _)).1
    rw [standing]
    exact List.mem_singleton_self inbound

/-- Somebody connects. -/
theorem nodup_concat {backlog : List TcpStream} {nextId : Nat}
    (waiting : ∀ stream ∈ backlog, stream.id < nextId) (distinct : backlog.Nodup) :
    (backlog ++ [(⟨nextId⟩ : TcpStream)]).Nodup := by
  apply List.Nodup.append distinct (List.nodup_singleton _)
  intro stream streamMem same
  have lower := waiting stream streamMem
  rw [List.mem_singleton.mp same] at lower
  exact lt_irrefl _ lower

theorem lt_of_mem_concat {streams : List TcpStream} {nextId : Nat}
    (lower : ∀ stream ∈ streams, stream.id < nextId) :
    ∀ stream ∈ streams ++ [⟨nextId⟩], stream.id < nextId + 1 := by
  intro stream streamMem
  rcases List.mem_append.mp streamMem with before | latest
  · exact Nat.lt_succ_of_lt (lower stream before)
  · rw [List.mem_singleton.mp latest]
    exact Nat.lt_succ_self _

theorem not_mem_concat {backlog : List TcpStream} {nextId : Nat} {stream : TcpStream}
    (earlier : stream.id < nextId) (other : stream ∉ backlog) :
    stream ∉ backlog ++ [⟨nextId⟩] := by
  intro streamMem
  rcases List.mem_append.mp streamMem with before | latest
  · exact other before
  · rw [List.mem_singleton.mp latest] at earlier
    exact lt_irrefl _ earlier

theorem not_mem_eraseIdx {backlog : List TcpStream} (distinct : backlog.Nodup) {index : Nat}
    {stream : TcpStream} (waiting : backlog[index]? = some stream) :
    stream ∉ backlog.eraseIdx index := by
  rw [List.mem_eraseIdx_iff_getElem?]
  rintro ⟨other, apart, same⟩
  have within := (List.getElem?_eq_some_iff.mp same).1
  exact apart ((List.getElem?_inj within distinct).mp (same.trans waiting.symm))

theorem idle_of_accept {host after : Host} {inbound : Inbound}
    (step : host.step json (.accept inbound) = some after) : host.accept = .idle := by
  simp only [Host.step] at step
  split at step
  · assumption
  · cases step

theorem Distinct.step (distinct : visit.Distinct) (busy : visit.host.Busy)
    (move : Move json caller visit next) : next.Distinct := by
  cases move with
  | dial dialing =>
      constructor
      · exact lt_of_mem_concat distinct.waiting
      · exact nodup_concat distinct.waiting distinct.distinct
      · exact distinct.inHand
      · intro stream current
        rcases distinct.current stream current with ⟨earlier, other⟩
        exact ⟨Nat.lt_succ_of_lt earlier, not_mem_concat earlier other⟩
      · rintro stream ⟨⟩
        exact ⟨Nat.lt_succ_self _, fun opened => lt_irrefl _ (distinct.opened _ opened)⟩
      · exact fun stream opened => Nat.lt_succ_of_lt (distinct.opened stream opened)
      · rintro ⟨⟩
      · exact fun stream welcome => Nat.lt_succ_of_lt (distinct.welcomed stream welcome)
  | client client _ running move =>
      cases move with
      | connect after step =>
          constructor
          · exact lt_of_mem_concat distinct.waiting
          · exact nodup_concat distinct.waiting distinct.distinct
          · exact distinct.inHand
          · intro stream current
            rcases distinct.current stream current with ⟨earlier, other⟩
            exact ⟨Nat.lt_succ_of_lt earlier, not_mem_concat earlier other⟩
          · intro stream control
            rcases distinct.control stream control with ⟨earlier, other⟩
            exact ⟨Nat.lt_succ_of_lt earlier, not_mem_concat earlier other⟩
          · exact lt_of_mem_concat distinct.opened
          · rintro ⟨⟩
          · exact fun stream welcome => Nat.lt_succ_of_lt (distinct.welcomed stream welcome)
      | reply | read | own | rest =>
          exact distinct.keep distinct.inHand rfl rfl rfl rfl rfl (by rintro ⟨⟩)
            distinct.welcomed
  | accept index stream host waiting step =>
      have streamMem := List.mem_of_getElem? waiting
      have fewer := @List.eraseIdx_subset _ visit.backlog index
      constructor
      · exact fun other otherMem => distinct.waiting other (fewer otherMem)
      · exact distinct.distinct.eraseIdx index
      · intro inbound inboundMem
        rcases inHand_of_turn (Host.turn_of_step busy step) inbound inboundMem with
          same | accepts | ⟨before, beforeMem, bytes, closed, arrives, -⟩
        · rw [idle_of_accept step] at same
          cases same
        · cases accepts
          rfl
        · cases arrives
      · rintro _ ⟨⟩
        exact ⟨distinct.waiting _ streamMem, not_mem_eraseIdx distinct.distinct waiting⟩
      · exact distinct.control
      · exact distinct.opened
      · exact distinct.undialed
      · exact distinct.answers step
  | stranger =>
      constructor
      · exact lt_of_mem_concat distinct.waiting
      · exact nodup_concat distinct.waiting distinct.distinct
      · exact distinct.inHand
      · intro stream current
        rcases distinct.current stream current with ⟨earlier, other⟩
        exact ⟨Nat.lt_succ_of_lt earlier, not_mem_concat earlier other⟩
      · intro stream control
        rcases distinct.control stream control with ⟨earlier, other⟩
        exact ⟨Nat.lt_succ_of_lt earlier, other⟩
      · exact fun stream opened => Nat.lt_succ_of_lt (distinct.opened stream opened)
      · exact distinct.undialed
      · exact fun stream welcome => Nat.lt_succ_of_lt (distinct.welcomed stream welcome)
  | fail | hello | reply | parameters =>
      exact distinct.keep distinct.inHand rfl rfl rfl rfl rfl (by rintro ⟨⟩)
        distinct.welcomed
  | signal => exact distinct.keep distinct.inHand rfl rfl rfl rfl rfl id distinct.welcomed
  | arrive bytes closed host arrives step =>
      exact distinct.keep (distinct.host busy (by rintro _ ⟨⟩) step) rfl rfl rfl rfl rfl id
        (distinct.answers step)
  | hostReads test message toServer host own head step =>
      exact distinct.keep (distinct.host busy (by rintro _ ⟨⟩) step) rfl rfl rfl rfl rfl id
        (distinct.answers step)
  | createWelcome delivered host step =>
      exact distinct.keep (distinct.host busy (by rintro _ ⟨⟩) step) rfl rfl rfl rfl rfl id
        (distinct.answers step)
  | spawn host step =>
      exact distinct.keep (distinct.host busy (by rintro _ ⟨⟩) step) rfl rfl rfl rfl rfl id
        (distinct.answers step)
  | host event host noAccept noArrive noWelcome noSpawn reads step =>
      exact distinct.keep (distinct.host busy noAccept step) rfl rfl rfl rfl rfl id
        (distinct.answers step)

/-! ## What the client has written -/

/-- What `startClient` writes, up to the parameters. -/
def opening (json : Json) (caller : Caller) : List UInt8 :=
  frame json.client (.message (.hello caller.cookie)) ++
    frame json.client (.message (.sendParameters (.fromOpts caller.opts)))

/-- What has been written to the control connection at this point of the program. -/
def Wrote (json : Json) (caller : Caller) (bytes : List UInt8) : Startup → Prop
  | .dialing | .greeting => bytes = []
  | .awaiting | .asking => bytes = frame json.client (.message (.hello caller.cookie))
  | .running _ => bytes = opening json caller
  | .failed => bytes <+: frame json.client (.message (.hello caller.cookie))

/-- What has been written to the client's connections, and has arrived of it. -/
structure Spoken (json : Json) (caller : Caller) (visit : Visit) : Prop where
  silent : ∀ stream, ¬visit.IsOwn stream → visit.sent stream = []
  control : ∀ stream, visit.control = some stream →
    Wrote json caller (visit.sent stream) visit.startup
  data : ∀ stream ∈ visit.opened,
    visit.sent stream = frame json.client (.message (.hello caller.cookie))
  perf : ∀ client, visit.startup = .running client →
    client.perf = .newWithStatsReceiver caller.cookie .client (.fromOpts caller.opts)
  arrived : ∀ inbound ∈ visit.host.accept.inHand, visit.IsOwn inbound.stream →
    inbound.peer.bytes <+: visit.sent inbound.stream ∧
      (inbound.stream ∈ visit.opened → inbound.peer.closed = true →
        inbound.peer.bytes = visit.sent inbound.stream)

theorem new_spoken (json : Json) (caller : Caller) (build : Build) :
    (new build).Spoken json caller where
  silent := fun _ _ => rfl
  control := by rintro stream ⟨⟩
  data := by rintro stream ⟨⟩
  perf := by rintro client ⟨⟩
  arrived := by rintro inbound ⟨⟩

theorem Wrote.fail {bytes : List UInt8} {startup : Startup}
    (wrote : Wrote json caller bytes startup) (notRunning : ∀ client, startup ≠ .running client) :
    Wrote json caller bytes .failed := by
  cases startup with
  | dialing | greeting =>
      rw [show bytes = [] from wrote]
      exact List.nil_prefix
  | awaiting | asking =>
      rw [show bytes = _ from wrote]
      exact List.prefix_refl _
  | running client => exact absurd rfl (notRunning client)
  | failed => exact wrote

/-- What is written first is known as the beginning of all that is written. -/
theorem Wrote.first {bytes : List UInt8} {startup : Startup}
    (wrote : Wrote json caller bytes startup) : bytes <+: opening json caller := by
  cases startup with
  | dialing | greeting =>
      rw [show bytes = [] from wrote]
      exact List.nil_prefix
  | awaiting | asking =>
      rw [show bytes = _ from wrote]
      exact List.prefix_append _ _
  | running client =>
      rw [show bytes = opening json caller from wrote]
  | failed => exact (show bytes <+: _ from wrote).trans (List.prefix_append _ _)

theorem sent_send_self (visit : Visit) (stream : TcpStream) (bytes : List UInt8) :
    (visit.send stream bytes).sent stream = visit.sent stream ++ bytes := by
  simp only [send, if_true]

theorem sent_send_of_ne (visit : Visit) {stream other : TcpStream} (bytes : List UInt8)
    (apart : other ≠ stream) : (visit.send stream bytes).sent other = visit.sent other := by
  simp only [send, apart, if_false, List.append_nil]

theorem sent_first (visit : Visit) (stream other : TcpStream) (bytes : List UInt8) :
    visit.sent other <+: (visit.send stream bytes).sent other :=
  List.prefix_append _ _

/-- A step that writes nothing. -/
theorem Spoken.keep (spoken : visit.Spoken json caller) (sent : next.sent = visit.sent)
    (control : next.control = visit.control) (opened : next.opened = visit.opened)
    (wrote : ∀ bytes, Wrote json caller bytes visit.startup → Wrote json caller bytes next.startup)
    (perf : ∀ client, next.startup = .running client →
      client.perf = .newWithStatsReceiver caller.cookie .client (.fromOpts caller.opts))
    (arrived : ∀ inbound ∈ next.host.accept.inHand, visit.IsOwn inbound.stream →
      inbound.peer.bytes <+: visit.sent inbound.stream ∧
        (inbound.stream ∈ visit.opened → inbound.peer.closed = true →
          inbound.peer.bytes = visit.sent inbound.stream)) : next.Spoken json caller := by
  have own : ∀ stream, next.IsOwn stream ↔ visit.IsOwn stream := by
    intro stream
    rw [IsOwn, control, opened, IsOwn]
  constructor
  · intro stream other
    rw [sent]
    exact spoken.silent stream fun own' => other ((own stream).mpr own')
  · rw [control, sent]
    exact fun stream dialed => wrote _ (spoken.control stream dialed)
  · rw [opened, sent]
    exact spoken.data
  · exact perf
  · intro inbound inboundMem own'
    rw [sent, opened]
    exact arrived inbound inboundMem ((own _).mp own')

/-- The server moves, and nothing arrives. -/
theorem Spoken.host (spoken : visit.Spoken json caller) (busy : visit.host.Busy)
    {event : HostEvent} (noAccept : ∀ inbound, event ≠ .accept inbound)
    (noArrive : ∀ bytes closed, event ≠ .arrive bytes closed)
    (step : visit.host.step json event = some next.host) :
    ∀ inbound ∈ next.host.accept.inHand, visit.IsOwn inbound.stream →
      inbound.peer.bytes <+: visit.sent inbound.stream ∧
        (inbound.stream ∈ visit.opened → inbound.peer.closed = true →
          inbound.peer.bytes = visit.sent inbound.stream) := by
  intro inbound inboundMem
  rcases inHand_of_turn (Host.turn_of_step busy step) inbound inboundMem with
    same | accepts | ⟨before, beforeMem, bytes, closed, arrives, -⟩
  · exact spoken.arrived inbound same
  · exact absurd accepts (noAccept inbound)
  · exact absurd arrives (noArrive bytes closed)

/-- What arrives on the client's connections is what the client has written. -/
theorem Spoken.arrive (spoken : visit.Spoken json caller) (undisturbed : visit.Undisturbed)
    (busy : visit.host.Busy) {bytes : List UInt8} {closed : Bool} {host : Host}
    (arrives : visit.arrives bytes closed = true)
    (step : visit.host.step json (.arrive bytes closed) = some host) :
    Spoken json caller { visit with host } := by
  have arrived : ∀ inbound ∈ host.accept.inHand, visit.IsOwn inbound.stream →
      inbound.peer.bytes <+: visit.sent inbound.stream ∧
        (inbound.stream ∈ visit.opened → inbound.peer.closed = true →
          inbound.peer.bytes = visit.sent inbound.stream) := by
    intro inbound inboundMem own
    rcases inHand_of_turn (Host.turn_of_step busy step) inbound inboundMem with
      same | accepts | ⟨before, beforeMem, more, shut, same, rfl⟩
    · exact spoken.arrived inbound same own
    · cases accepts
    · cases same
      have allowed := List.all_eq_true.mp arrives before beforeMem
      have mine : visit.control = some before.stream ∨
          (before.stream ∈ visit.opened ∧ before.stream ∉ visit.greeted) :=
        own.imp_right fun opened => ⟨opened, undisturbed _ opened⟩
      simp only [mine, if_true, Bool.and_eq_true, List.isPrefixOf_iff_prefix, Bool.or_eq_true,
        Bool.not_eq_true', beq_iff_eq] at allowed
      constructor
      · exact allowed.1
      · intro opened shut
        rcases allowed.2 with still | whole
        · exact absurd (still.symm.trans shut) Bool.false_ne_true
        · exact whole.2
  exact spoken.keep rfl rfl rfl (fun _ => id) spoken.perf arrived

/-- The client writes to its control connection. -/
theorem Spoken.write (spoken : visit.Spoken json caller) (distinct : visit.Distinct)
    {control : TcpStream} {bytes : List UInt8} {startup : Startup}
    (dialed : visit.control = some control)
    (wrote : ∀ sofar, Wrote json caller sofar visit.startup →
      Wrote json caller (sofar ++ bytes) startup)
    (perf : ∀ client, startup = .running client →
      client.perf = .newWithStatsReceiver caller.cookie .client (.fromOpts caller.opts)) :
    Spoken json caller { visit.send control bytes with startup } := by
  have apart : ∀ stream ∈ visit.opened, stream ≠ control := by
    rintro stream opened rfl
    exact (distinct.control stream dialed).2 opened
  constructor
  · intro stream other
    have apart : stream ≠ control := by
      rintro rfl
      exact other (.inl dialed)
    exact (sent_send_of_ne visit bytes apart).trans (spoken.silent stream other)
  · intro stream same
    cases dialed.symm.trans same
    change Wrote json caller ((visit.send control bytes).sent control) startup
    rw [sent_send_self]
    exact wrote _ (spoken.control control dialed)
  · intro stream opened
    exact (sent_send_of_ne visit bytes (apart stream opened)).trans (spoken.data stream opened)
  · exact perf
  · intro inbound inboundMem own
    rcases spoken.arrived inbound inboundMem own with ⟨first, whole⟩
    constructor
    · exact first.trans (sent_first visit control inbound.stream bytes)
    · intro opened shut
      exact (whole opened shut).trans (sent_send_of_ne visit bytes (apart _ opened)).symm

theorem bytes_hello (greets : Understands json (.hello caller.cookie)) :
    (Peer.sending json.client (.hello caller.cookie)).bytes =
      frame json.client (.message (.hello caller.cookie)) := by
  simp only [Peer.sending, writeControlMessage_eq (greets.2.trans Reader.max_le_u32Max),
    Option.getD_some]

/-- The client opens a data connection. -/
theorem Spoken.connect (spoken : visit.Spoken json caller) (distinct : visit.Distinct)
    (greets : Understands json (.hello caller.cookie)) {client after : Controller}
    (running : visit.startup = .running client) (perf : after.perf = client.perf) :
    Spoken json caller { visit.send ⟨visit.nextId⟩
        (Peer.sending json.client (.hello client.perf.cookie)).bytes with
      startup := .running after
      backlog := visit.backlog ++ [⟨visit.nextId⟩]
      nextId := visit.nextId + 1
      opened := visit.opened ++ [⟨visit.nextId⟩] } := by
  have cookie : client.perf.cookie = caller.cookie := by rw [spoken.perf client running]; rfl
  have fresh : ¬visit.IsOwn ⟨visit.nextId⟩ := by
    rintro (dialed | opened)
    · exact lt_irrefl _ (distinct.control _ dialed).1
    · exact lt_irrefl _ (distinct.opened _ opened)
  have earlier : ∀ stream, visit.IsOwn stream → stream ≠ ⟨visit.nextId⟩ := by
    rintro stream own rfl
    exact fresh own
  rw [cookie, bytes_hello greets]
  constructor
  · intro stream other
    have apart : stream ≠ ⟨visit.nextId⟩ := by
      rintro rfl
      exact other (.inr (List.mem_append_right _ (List.mem_singleton_self _)))
    have before : ¬visit.IsOwn stream := by
      rintro (dialed | opened)
      · exact other (.inl dialed)
      · exact other (.inr (List.mem_append_left _ opened))
    exact (sent_send_of_ne visit _ apart).trans (spoken.silent stream before)
  · intro stream dialed
    have wrote := spoken.control stream dialed
    rw [running] at wrote
    exact (sent_send_of_ne visit _ (earlier stream (.inl dialed))).trans wrote
  · intro stream opened
    rcases List.mem_append.mp opened with before | latest
    · rw [← spoken.data stream before]
      exact sent_send_of_ne visit _ (earlier stream (.inr before))
    · rw [List.mem_singleton.mp latest]
      refine (sent_send_self visit _ _).trans ?_
      rw [spoken.silent _ fresh, List.nil_append]
  · rintro _ ⟨⟩
    rw [perf, spoken.perf client running]
  · intro inbound inboundMem own
    have lower := (distinct.current _ (distinct.inHand inbound inboundMem)).1
    have apart : inbound.stream ≠ ⟨visit.nextId⟩ := by
      intro same
      rw [same] at lower
      exact lt_irrefl _ lower
    have mine : visit.IsOwn inbound.stream := by
      rcases own with dialed | opened
      · exact .inl dialed
      · rcases List.mem_append.mp opened with before | latest
        · exact .inr before
        · exact absurd (List.mem_singleton.mp latest) apart
    rcases spoken.arrived inbound inboundMem mine with ⟨first, whole⟩
    constructor
    · exact first.trans (sent_first visit _ _ _)
    · intro opened shut
      rcases List.mem_append.mp opened with before | latest
      · exact (whole before shut).trans (sent_send_of_ne visit _ apart).symm
      · exact absurd (List.mem_singleton.mp latest) apart

theorem Spoken.step (spoken : visit.Spoken json caller) (distinct : visit.Distinct)
    (undisturbed : visit.Undisturbed) (busy : visit.host.Busy)
    (greets : Understands json (.hello caller.cookie))
    (move : Move json caller visit next) : next.Spoken json caller := by
  cases move with
  | dial dialing =>
      have none : visit.control = none := distinct.undialed dialing
      have fresh : ¬visit.IsOwn ⟨visit.nextId⟩ := by
        rintro (dialed | opened)
        · rw [none] at dialed
          cases dialed
        · exact lt_irrefl _ (distinct.opened _ opened)
      constructor
      · intro stream other
        apply spoken.silent
        rintro (dialed | opened)
        · rw [none] at dialed
          cases dialed
        · exact other (.inr opened)
      · rintro _ ⟨⟩
        exact spoken.silent _ fresh
      · exact spoken.data
      · rintro _ ⟨⟩
      · rintro inbound inboundMem (latest | opened)
        · have lower := (distinct.current _ (distinct.inHand inbound inboundMem)).1
          rw [← Option.some.inj latest] at lower
          exact absurd lower (lt_irrefl _)
        · exact spoken.arrived inbound inboundMem (.inr opened)
  | fail notRunning =>
      exact spoken.keep rfl rfl rfl (fun _ wrote => wrote.fail notRunning) (by rintro _ ⟨⟩)
        spoken.arrived
  | hello control bytes greeting dialed writes =>
      apply spoken.write distinct dialed _ (by rintro _ ⟨⟩)
      rw [greeting]
      rintro _ rfl
      exact (frame_of_write writes).2
  | reply control awaiting dialed welcomed =>
      have wrote : ∀ bytes, Wrote json caller bytes visit.startup →
          Wrote json caller bytes .asking := by
        rw [awaiting]
        exact fun _ => id
      exact spoken.keep rfl rfl rfl wrote (by rintro _ ⟨⟩) spoken.arrived
  | parameters control bytes asking dialed writes =>
      apply spoken.write distinct dialed
      · rw [asking]
        rintro _ rfl
        rw [(frame_of_write writes).2]
        rfl
      · rintro _ ⟨⟩
        rfl
  | signal => exact spoken.keep rfl rfl rfl (fun _ => id) spoken.perf spoken.arrived
  | client client _ running move =>
      have moves : ∀ after, after.perf = client.perf →
          ∀ bytes, Wrote json caller bytes visit.startup →
            Wrote json caller bytes (.running after) := by
        rw [running]
        exact fun _ _ _ => id
      have perfs : ∀ after : Controller, after.perf = client.perf → ∀ other,
          Startup.running after = .running other →
            other.perf = .newWithStatsReceiver caller.cookie .client (.fromOpts caller.opts) := by
        rintro after perf other ⟨⟩
        rw [perf, spoken.perf client running]
      cases move with
      | connect after step =>
          exact spoken.connect distinct greets running (Controller.move_of_controllerStep step).perf
      | reply total stream after pc welcomed step =>
          have perf := (Controller.move_of_controllerStep step).perf
          exact spoken.keep rfl rfl rfl (moves after perf) (perfs after perf) spoken.arrived
      | read message toClient after head step =>
          have perf := (Controller.move_of_controllerStep step).perf
          exact spoken.keep rfl rfl rfl (moves after perf) (perfs after perf) spoken.arrived
      | own event after noConnect noReply noRead step =>
          have perf := (Controller.move_of_controllerStep step).perf
          exact spoken.keep rfl rfl rfl (moves after perf) (perfs after perf) spoken.arrived
      | rest event after noController step =>
          have perf := Client.perf_of_step step
          exact spoken.keep rfl rfl rfl (moves after perf) (perfs after perf) spoken.arrived
  | accept index stream host waiting step =>
      have arrived : ∀ inbound ∈ host.accept.inHand, visit.IsOwn inbound.stream →
          inbound.peer.bytes <+: visit.sent inbound.stream ∧
            (inbound.stream ∈ visit.opened → inbound.peer.closed = true →
              inbound.peer.bytes = visit.sent inbound.stream) := by
        intro inbound inboundMem own
        rcases inHand_of_turn (Host.turn_of_step busy step) inbound inboundMem with
          same | accepts | ⟨before, beforeMem, bytes, closed, arrives, -⟩
        · rw [idle_of_accept step] at same
          cases same
        · cases accepts
          exact ⟨List.nil_prefix, fun _ => by rintro ⟨⟩⟩
        · cases arrives
      exact spoken.keep rfl rfl rfl (fun _ => id) spoken.perf arrived
  | arrive bytes closed host arrives step => exact spoken.arrive undisturbed busy arrives step
  | hostReads test message toServer host own head step =>
      exact spoken.keep rfl rfl rfl (fun _ => id) spoken.perf
        (spoken.host busy (by rintro _ ⟨⟩) (by rintro _ _ ⟨⟩) step)
  | createWelcome delivered host step =>
      exact spoken.keep rfl rfl rfl (fun _ => id) spoken.perf
        (spoken.host busy (by rintro _ ⟨⟩) (by rintro _ _ ⟨⟩) step)
  | spawn host step =>
      exact spoken.keep rfl rfl rfl (fun _ => id) spoken.perf
        (spoken.host busy (by rintro _ ⟨⟩) (by rintro _ _ ⟨⟩) step)
  | host event host noAccept noArrive noWelcome noSpawn reads step =>
      exact spoken.keep rfl rfl rfl (fun _ => id) spoken.perf
        (spoken.host busy noAccept noArrive step)
  | stranger => exact spoken.keep rfl rfl rfl (fun _ => id) spoken.perf spoken.arrived

end Visit

end Iperf
