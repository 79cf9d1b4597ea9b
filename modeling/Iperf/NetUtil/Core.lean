import Iperf.Error

/-!
# Framing of control messages

Every control message is a JSON payload behind its length, four bytes big
endian.  The reader is the state of the future `readControlMessage` creates: how
much of the length or of the payload it has taken from the socket.  The JSON
encoding itself belongs to a library and is a parameter.
-/

namespace Iperf

/-- An encoding of values as bytes. -/
structure Codec (α : Type) where
  toVec : α → List UInt8
  fromSlice : List UInt8 → Option α

/-- The codec that knows finitely many values, each by its text. -/
def Codec.ofTexts {α : Type} [DecidableEq α] (texts : List (α × String)) : Codec α where
  toVec value := (texts.lookup value).elim [] fun text => text.toUTF8.data.toList
  fromSlice bytes :=
    (texts.find? fun entry => entry.2.toUTF8.data.toList == bytes).map Prod.fst

/-- The JSON encodings of the two message types. -/
structure Json where
  client : Codec ClientEnvelope
  server : Codec ServerEnvelope

/-- The JSON texts of the messages that carry no numbers, for a cookie that
needs no escapes. -/
def Json.ofCookie (cookie : String) : Json where
  client := .ofTexts [
    (.message (.hello cookie),
      "\x7b\"Message\":\x7b\"Hello\":\x7b\"cookie\":\"" ++ cookie ++ "\"\x7d\x7d\x7d")]
  server := .ofTexts [
    (.message .welcome, "\x7b\"Message\":\"Welcome\"\x7d"),
    (.message (.setState (.createStreams cookie)),
      "\x7b\"Message\":\x7b\"SetState\":\x7b\"CreateStreams\":\x7b\"cookie\":\"" ++ cookie ++
        "\"\x7d\x7d\x7d\x7d"),
    (.message (.setState .running), "\x7b\"Message\":\x7b\"SetState\":\"Running\"\x7d\x7d"),
    (.message (.setState .exchangeResults),
      "\x7b\"Message\":\x7b\"SetState\":\"ExchangeResults\"\x7d\x7d"),
    (.message (.setState .terminate),
      "\x7b\"Message\":\x7b\"SetState\":\"Terminate\"\x7d\x7d"),
    (.error .perfTestAlreadyInFlight, "\x7b\"Error\":\"PerfTestAlreadyInFlight\"\x7d")]

def u32Max : Nat := 4294967295

/-- A 32-bit number as four bytes, most significant first. -/
def putU32 (value : Nat) : List UInt8 :=
  [UInt8.ofNat (value / 16777216), UInt8.ofNat (value / 65536 % 256),
    UInt8.ofNat (value / 256 % 256), UInt8.ofNat (value % 256)]

def getU32 (bytes : List UInt8) : Nat :=
  bytes.foldl (fun value byte => value * 256 + byte.toNat) 0

/-- The bytes written for a message; a payload whose length does not fit is the
panic of the assertion. -/
def writeControlMessage {α : Type} (codec : Codec α) (message : α) : Option (List UInt8) :=
  let payload := codec.toVec message
  if payload.length ≤ u32Max then some (putU32 payload.length ++ payload) else none

/-- Progress of one `readControlMessage`. -/
inductive Reader where
  /-- Some bytes of the length have been read. -/
  | size (read : List UInt8)
  | payload (messageSize remainingBytes : Nat) (buf : List UInt8)
  deriving DecidableEq

/-- What a read leads to. -/
inductive ReadStep (α : Type) where
  | more (reader : Reader)
  | done (result : Except NetUtilError α)
  /-- The final length assertion fails. -/
  | panicked

namespace Reader

/-- A future that has not been polled yet. -/
def fresh : Reader :=
  .size []

/-- The largest number of bytes the next read may take. -/
def wanted : Reader → Nat
  | .size read => messageLengthSizeBytes - read.length
  | .payload _ remainingBytes _ => remainingBytes

/-- After the loop: check the length and decode. -/
def finishLoop {α : Type} (codec : Codec α) (messageSize : Nat) (buf : List UInt8) :
    ReadStep α :=
  if messageSize = buf.length then
    match codec.fromSlice buf with
    | some message => .done (.ok message)
    | none => .done (.error .serializeError)
  else
    .panicked

/-- The `while` over the remaining bytes, up to its next await. -/
def continueLoop {α : Type} (codec : Codec α) (messageSize remainingBytes : Nat)
    (buf : List UInt8) : ReadStep α :=
  if 0 < remainingBytes then .more (.payload messageSize remainingBytes buf)
  else finishLoop codec messageSize buf

/-- The length is complete. -/
def startLoop {α : Type} (codec : Codec α) (read : List UInt8) : ReadStep α :=
  let messageSize := getU32 read
  if maxControlMessageSize < messageSize then
    .done (.error (.controlMessageTooLarge messageSize))
  else
    continueLoop codec messageSize messageSize []

/-- A read has returned `chunk`, at least one and at most `wanted` bytes. -/
def consume {α : Type} (codec : Codec α) (reader : Reader) (chunk : List UInt8) :
    ReadStep α :=
  match reader with
  | .size read =>
      let read := read ++ chunk
      if read.length < messageLengthSizeBytes then .more (.size read)
      else startLoop codec read
  | .payload messageSize remainingBytes buf =>
      continueLoop codec messageSize (remainingBytes - chunk.length) (buf ++ chunk)

/-- A read has returned nothing: the peer has closed the connection. -/
def eof : Reader → NetUtilError
  | .size _ => .ioError
  | .payload _ _ _ => .connectionWasClosedByPeer

/-- An uninterrupted read over the bytes at hand, with what it leaves of them. -/
def feed {α : Type} (codec : Codec α) (reader : Reader) :
    List UInt8 → ReadStep α × List UInt8
  | [] => (.more reader, [])
  | byte :: rest =>
      match consume codec reader [byte] with
      | .more next => feed codec next rest
      | stop => (stop, rest)

end Reader

/-- Everything a peer sends before it closes its side or falls silent. -/
structure Peer where
  bytes : List UInt8
  closed : Bool

/-- How a read from a peer turns out. -/
inductive ReadOutcome (α : Type) where
  /-- The peer has fallen silent in the middle of a message. -/
  | waiting
  | panicked
  | done (result : Except Error α)

def serverMessageOf (result : Except NetUtilError ClientEnvelope) :
    Except Error ClientMessage :=
  match result with
  | .ok (.message message) => .ok message
  | .ok (.error error) => .error (.clientError error)
  | .error cause => .error (.serverReadError cause)

def clientMessageOf (result : Except NetUtilError ServerEnvelope) :
    Except Error ServerMessage :=
  match result with
  | .ok (.message message) => .ok message
  | .ok (.error error) => .error (.serverError error)
  | .error cause => .error (.clientReadError cause)

/-- The first message a peer sends, as the server reads it. -/
def serverReadMessage (json : Json) (peer : Peer) : ReadOutcome ClientMessage :=
  match (Reader.fresh.feed json.client peer.bytes).1 with
  | .done result => .done (serverMessageOf result)
  | .panicked => .panicked
  | .more reader =>
      if peer.closed then .done (serverMessageOf (.error reader.eof)) else .waiting

/-- The cookie of the `Hello` a peer opens with. -/
def readCookie (json : Json) (peer : Peer) : ReadOutcome String :=
  match serverReadMessage json peer with
  | .waiting => .waiting
  | .panicked => .panicked
  | .done (.ok (.hello cookie)) => .done (.ok cookie)
  | .done (.ok message) => .done (.error (.unexpectedClientMessage message))
  | .done (.error error) => .done (.error error)

end Iperf
