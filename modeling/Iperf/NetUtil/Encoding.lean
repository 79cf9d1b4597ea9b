import Iperf.NetUtil.Read
import Iperf.Opts
import Iperf.Serde.Compact

/-!
# The messages as compact JSON

What the derived serializers write: structs as objects under the names of their
fields, variants under their own names, and the ids of a result map as quoted
numbers.  The counters of a message have 64 bits, which bounds its payload; only
a result map grows, with the number of its ids.
-/

namespace Iperf

open Serde

def Direction.serialize : Direction → Value
  | .clientToServer => .string "ClientToServer"
  | .serverToClient => .string "ServerToClient"
  | .bidirectional => .string "Bidirectional"

def Parameters.serialize (params : Parameters) : Value :=
  .object [
    ("prefer_ipv6", .bool params.preferIpv6),
    ("direction", params.direction.serialize),
    ("duration", .number params.duration),
    ("parallel", .number params.parallel.toNat),
    ("client_version", .string params.clientVersion),
    ("block_size", .number params.blockSize),
    ("no_delay", .bool params.noDelay),
    ("socket_buffers", .optional params.socketBuffers),
    ("mss", .optional params.mss),
    ("interval", .number params.interval),
    ("max_length", .optional params.maxLength)]

def StreamStats.serialize (stats : StreamStats) : Value :=
  .object [
    ("id", .number stats.id),
    ("index", .optional stats.index),
    ("duration", .number stats.duration),
    ("bytes_transferred", .number stats.bytesTransferred),
    ("retransmits", .optional stats.retransmits),
    ("cwnd", .optional stats.cwnd),
    ("is_sending", .bool stats.isSending),
    ("is_peer", .bool stats.isPeer),
    ("is_summary", .bool stats.isSummary)]

def Results.serialize (results : Results) : Value :=
  .object (results.entries.map fun entry => (toString entry.1, entry.2.serialize))

def State.serialize : State → Value
  | .start => .string "Start"
  | .createStreams cookie => .variant "CreateStreams" (.object [("cookie", .string cookie)])
  | .running => .string "Running"
  | .exchangeResults => .string "ExchangeResults"
  | .terminate => .string "Terminate"

def ClientMessage.serialize : ClientMessage → Value
  | .hello cookie => .variant "Hello" (.object [("cookie", .string cookie)])
  | .sendParameters params => .variant "SendParameters" params.serialize
  | .sendResults results => .variant "SendResults" (Results.serialize results)

def ServerMessage.serialize : ServerMessage → Value
  | .welcome => .string "Welcome"
  | .setState state => .variant "SetState" state.serialize
  | .sendResults results => .variant "SendResults" (Results.serialize results)

def ServerError.serialize : ServerError → Value
  | .perfTestAlreadyInFlight => .string "PerfTestAlreadyInFlight"

def ClientEnvelope.serialize : ClientEnvelope → Value
  | .message content => .variant "Message" content.serialize

def ServerEnvelope.serialize : ServerEnvelope → Value
  | .message content => .variant "Message" content.serialize
  | .error cause => .variant "Error" cause.serialize

/-- The compact encodings, with any decoders. -/
def Json.compact (fromClient : List UInt8 → Option ClientEnvelope)
    (fromServer : List UInt8 → Option ServerEnvelope) : Json where
  client := { toVec := fun envelope => envelope.serialize.write, fromSlice := fromClient }
  server := { toVec := fun envelope => envelope.serialize.write, fromSlice := fromServer }

/-! ## Sixty-four bits -/

/-- The numbers of a summary whose width is that of a counter. -/
def StreamStats.counters (stats : StreamStats) : List Nat :=
  [stats.id, stats.duration, stats.bytesTransferred] ++ stats.index.toList ++
    stats.retransmits.toList ++ stats.cwnd.toList

def Parameters.counters (params : Parameters) : List Nat :=
  [params.duration, params.blockSize, params.interval] ++ params.socketBuffers.toList ++
    params.mss.toList ++ params.maxLength.toList

def ClientOpts.counters (opts : ClientOpts) : List Nat :=
  [opts.time] ++ opts.bytes.toList ++ opts.length.toList ++ opts.window.toList ++
    opts.setMss.toList ++ opts.interval.toList

/-- All numbers fit in 64 bits. -/
def Fit (counters : List Nat) : Prop :=
  ∀ counter ∈ counters, counter < UInt64.size

instance (counters : List Nat) : Decidable (Fit counters) :=
  inferInstanceAs (Decidable (∀ counter ∈ counters, counter < UInt64.size))

/-- A client asks for parameters of the width of its options. -/
theorem Parameters.fit_fromOpts {opts : ClientOpts} (fit : Fit opts.counters) :
    Fit (Parameters.fromOpts opts).counters := by
  simp only [Fit, ClientOpts.counters, counters, fromOpts, List.forall_mem_append,
    List.forall_mem_cons, List.not_mem_nil, false_imp_iff, implies_true, and_true,
    Option.mem_toList] at fit ⊢
  rcases fit with ⟨⟨⟨⟨⟨time, bytes⟩, length⟩, window⟩, setMss⟩, interval⟩
  have blockSize : opts.length.getD defaultBlockSize < UInt64.size := by
    cases asked : opts.length with
    | none => decide
    | some value => exact length value asked
  have seconds : opts.interval.getD defaultIntervalSec < UInt64.size := by
    cases asked : opts.interval with
    | none => decide
    | some value => exact interval value asked
  exact ⟨⟨⟨⟨time, blockSize, seconds⟩, window⟩, setMss⟩, bytes⟩

/-! ## Sizes -/

theorem length_number_le_twenty {value : Nat} (fits : value < UInt64.size) :
    (Value.number value).write.length ≤ 20 :=
  length_number_le (by decide) (Nat.lt_trans fits (by decide))

theorem length_bool_le_twenty (value : Bool) : (Value.bool value).write.length ≤ 20 := by
  cases value <;> exact Nat.le_of_ble_eq_true rfl

theorem length_optional_le_twenty {value : Option Nat}
    (fits : ∀ number ∈ value, number < UInt64.size) :
    (Value.optional value).write.length ≤ 20 := by
  cases value with
  | none => exact Nat.le_of_ble_eq_true rfl
  | some number => exact length_number_le_twenty (fits number rfl)

theorem Direction.length_le_twenty (direction : Direction) :
    direction.serialize.write.length ≤ 20 := by
  cases direction <;> exact Nat.le_of_ble_eq_true rfl

/-- Nine fields of at most twenty bytes each, and their names. -/
theorem StreamStats.length_le {stats : StreamStats} (fit : Fit stats.counters) :
    stats.serialize.write.length ≤ 292 := by
  simp only [Fit, counters, List.forall_mem_append, List.forall_mem_cons, List.not_mem_nil,
    false_imp_iff, implies_true, and_true, Option.mem_toList] at fit
  rcases fit with ⟨⟨⟨⟨id, duration, bytesTransferred⟩, index⟩, retransmits⟩, cwnd⟩
  have names : namesSize ["id", "index", "duration", "bytes_transferred", "retransmits", "cwnd",
      "is_sending", "is_peer", "is_summary"] = 110 := by
    decide +kernel
  apply (@length_object_le_of_values _ 20 _).trans
  · simp only [List.map_cons, List.map_nil, names, List.length_cons, List.length_nil]
    decide
  · simp only [List.forall_mem_cons, List.not_mem_nil, false_imp_iff, implies_true, and_true]
    constructor
    · exact length_number_le_twenty id
    constructor
    · exact length_optional_le_twenty index
    constructor
    · exact length_number_le_twenty duration
    constructor
    · exact length_number_le_twenty bytesTransferred
    constructor
    · exact length_optional_le_twenty retransmits
    constructor
    · exact length_optional_le_twenty cwnd
    constructor
    · exact length_bool_le_twenty _
    constructor
    · exact length_bool_le_twenty _
    · exact length_bool_le_twenty _

/-- Eleven fields of at most twenty bytes each, and their names. -/
theorem Parameters.length_le {params : Parameters} (fit : Fit params.counters)
    (version : params.clientVersion = "0.1.0") : params.serialize.write.length ≤ 369 := by
  simp only [Fit, counters, List.forall_mem_append, List.forall_mem_cons, List.not_mem_nil,
    false_imp_iff, implies_true, and_true, Option.mem_toList] at fit
  rcases fit with ⟨⟨⟨⟨duration, blockSize, interval⟩, socketBuffers⟩, mss⟩, maxLength⟩
  have names : namesSize ["prefer_ipv6", "direction", "duration", "parallel", "client_version",
      "block_size", "no_delay", "socket_buffers", "mss", "interval", "max_length"] = 147 := by
    decide +kernel
  apply (@length_object_le_of_values _ 20 _).trans
  · simp only [List.map_cons, List.map_nil, names, List.length_cons, List.length_nil]
    decide
  · simp only [List.forall_mem_cons, List.not_mem_nil, false_imp_iff, implies_true, and_true]
    constructor
    · exact length_bool_le_twenty _
    constructor
    · exact params.direction.length_le_twenty
    constructor
    · exact length_number_le_twenty duration
    constructor
    · exact length_number_le_twenty (params.parallel.toNat_lt.trans (by decide))
    constructor
    · rw [version]
      exact Nat.le_of_ble_eq_true rfl
    constructor
    · exact length_number_le_twenty blockSize
    constructor
    · exact length_bool_le_twenty _
    constructor
    · exact length_optional_le_twenty socketBuffers
    constructor
    · exact length_optional_le_twenty mss
    constructor
    · exact length_number_le_twenty interval
    · exact length_optional_le_twenty maxLength

/-- As many entries as a stream counter has values. -/
theorem Results.length_entries_le {results : Results}
    (numbered : ∀ id ∈ results, id < UInt16.size) :
    results.entries.length ≤ UInt16.size := by
  have within : results.keys ⊆ List.range UInt16.size := by
    intro id idMem
    exact List.mem_range.mpr (numbered id idMem)
  have short := (List.subperm_of_subset results.keys_nodup within).length_le
  rwa [List.length_range, AList.keys, List.keys, List.length_map] at short

/-- The results of streams a counter can number. -/
structure Results.Fits (results : Results) : Prop where
  numbered : ∀ id ∈ results, id < UInt16.size
  counters : ∀ entry ∈ results.entries, Fit entry.2.counters

/-- A result map is below the bound of the reader, which is 20971520 bytes. -/
theorem Results.length_le {results : Results} (fits : Results.Fits results) :
    (Results.serialize results).write.length ≤ 19726338 := by
  have entries : (Results.serialize results).write.length ≤
      2 + (results.entries.map fun entry =>
        (toString entry.1, entry.2.serialize)).length * (1 + 300) := by
    apply length_object_le_of_entries
    intro member memberMem
    rcases List.mem_map.mp memberMem with ⟨entry, entryMem, same⟩
    have key := @length_quoted_number_le entry.1 5 (by decide)
      ((fits.numbered entry.1 (List.mem_keys_of_mem entryMem)).trans (by decide))
    have value := StreamStats.length_le (fits.counters entry entryMem)
    rw [← same, length_writeMember]
    calc (quoted (toString entry.1)).length + 1 + entry.2.serialize.write.length
        ≤ 7 + 1 + 292 := Nat.add_le_add (Nat.add_le_add_right key 1) value
      _ = 300 := rfl
  have short := Results.length_entries_le fits.numbered
  rw [List.length_map] at entries
  simp only [UInt16.size] at short
  omega

/-- A cookie is the hyphenated form of a UUID. -/
def Hyphenated (cookie : String) : Prop :=
  cookie.utf8ByteSize = 36

instance (cookie : String) : Decidable (Hyphenated cookie) :=
  inferInstanceAs (Decidable (cookie.utf8ByteSize = 36))

theorem length_cookie_le {cookie : String} (hyphenated : Hyphenated cookie) :
    (Value.object [("cookie", .string cookie)]).write.length ≤ 230 := by
  have text := length_quoted_le cookie
  have whole := length_variant_le "cookie" (.string cookie)
  have name : (quoted "cookie").length = 8 := rfl
  rw [hyphenated] at text
  simp only [Value.variant, Value.write, name] at whole ⊢
  omega

/-- The numbers of a message have the widths of their types. -/
def ClientMessage.Fits : ClientMessage → Prop
  | .hello cookie => Hyphenated cookie
  | .sendParameters params => ∃ opts, Fit (ClientOpts.counters opts) ∧ params = .fromOpts opts
  | .sendResults results => Results.Fits results

def ServerMessage.Fits : ServerMessage → Prop
  | .setState (.createStreams cookie) => Hyphenated cookie
  | .sendResults results => Results.Fits results
  | _ => True

theorem ClientMessage.length_le {message : ClientMessage} (fits : message.Fits) :
    message.serialize.write.length ≤ 19726400 := by
  cases message with
  | hello cookie =>
      have payload := length_cookie_le fits
      have whole := length_variant_le "Hello" (.object [("cookie", .string cookie)])
      have name : (quoted "Hello").length = 7 := rfl
      simp only [serialize]
      omega
  | sendParameters params =>
      rcases fits with ⟨opts, fit, same⟩
      have payload := Parameters.length_le (Parameters.fit_fromOpts fit) rfl
      have whole := length_variant_le "SendParameters" params.serialize
      have name : (quoted "SendParameters").length = 16 := rfl
      rw [← same] at payload
      simp only [serialize]
      omega
  | sendResults results =>
      have payload := Results.length_le fits
      have whole := length_variant_le "SendResults" (Results.serialize results)
      have name : (quoted "SendResults").length = 13 := rfl
      simp only [serialize]
      omega

theorem State.length_le {state : State} (fits : (ServerMessage.setState state).Fits) :
    state.serialize.write.length ≤ 300 := by
  cases state with
  | createStreams cookie =>
      have payload := length_cookie_le fits
      have whole := length_variant_le "CreateStreams" (.object [("cookie", .string cookie)])
      have name : (quoted "CreateStreams").length = 15 := rfl
      simp only [serialize]
      omega
  | start | running | exchangeResults | terminate => exact Nat.le_of_ble_eq_true rfl

theorem ServerMessage.length_le {message : ServerMessage} (fits : message.Fits) :
    message.serialize.write.length ≤ 19726400 := by
  cases message with
  | welcome => exact Nat.le_of_ble_eq_true rfl
  | setState state =>
      have payload := State.length_le fits
      have whole := length_variant_le "SetState" state.serialize
      have name : (quoted "SetState").length = 10 := rfl
      simp only [serialize]
      omega
  | sendResults results =>
      have payload := Results.length_le fits
      have whole := length_variant_le "SendResults" (Results.serialize results)
      have name : (quoted "SendResults").length = 13 := rfl
      simp only [serialize]
      omega

/-! ## Both bounds -/

/-- Neither of the two bounds on its size stops a message: it is written, and a read
of what was written decodes all of it. -/
structure Carries {α : Type} (codec : Codec α) (message : α) : Prop where
  size : (codec.toVec message).length ≤ maxControlMessageSize
  written : writeControlMessage codec message = some (frame codec message)
  read : ∀ (arrivals : Arrivals) (later : List UInt8),
    arrivals.bytes = frame codec message ++ later →
    (readControlMessage codec arrivals).1 = .returned (codec.decode (codec.toVec message)) ∧
      (readControlMessage codec arrivals).2.bytes = later

theorem carries_of_small {α : Type} {codec : Codec α} {message : α}
    (small : (codec.toVec message).length ≤ maxControlMessageSize) :
    Carries codec message where
  size := small
  written := writeControlMessage_eq (small.trans Reader.max_le_u32Max)
  read := by
    intro arrivals later arrives
    have read := readControlMessage_eq codec arrivals
    rw [arrives, frame, readFrame_frame codec small] at read
    exact read

variable {fromClient : List UInt8 → Option ClientEnvelope}
  {fromServer : List UInt8 → Option ServerEnvelope}

theorem ClientMessage.carries {message : ClientMessage} (fits : message.Fits) :
    Carries (Json.compact fromClient fromServer).client (.message message) := by
  apply carries_of_small
  have payload := ClientMessage.length_le fits
  have whole := length_variant_le "Message" message.serialize
  have name : (quoted "Message").length = 9 := rfl
  have small : 19726413 ≤ maxControlMessageSize := by decide
  simp only [Json.compact, ClientEnvelope.serialize]
  omega

theorem ServerMessage.carries {message : ServerMessage} (fits : message.Fits) :
    Carries (Json.compact fromClient fromServer).server (.message message) := by
  apply carries_of_small
  have payload := ServerMessage.length_le fits
  have whole := length_variant_le "Message" message.serialize
  have name : (quoted "Message").length = 9 := rfl
  have small : 19726413 ≤ maxControlMessageSize := by decide
  simp only [Json.compact, ServerEnvelope.serialize]
  omega

theorem ServerError.carries (error : ServerError) :
    Carries (Json.compact fromClient fromServer).server (.error error) := by
  apply carries_of_small
  cases error with
  | perfTestAlreadyInFlight => exact Nat.le_of_ble_eq_true rfl

/-- The texts known for a cookie that needs no escapes are those of the encoding. -/
example : (Json.compact (fun _ => none) (fun _ => none)).server.toVec
    (.message (.setState (.createStreams "c"))) =
      (Json.ofCookie "c").server.toVec (.message (.setState (.createStreams "c"))) := by
  decide +kernel

end Iperf
