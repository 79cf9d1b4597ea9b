import Iperf.Channel.Broadcast
import Iperf.Message

/-!
# Errors

The errors the modelled functions return.  Causes that come from outside the
program, such as an operating system error, carry no further data.
-/

namespace Iperf

inductive NetUtilError where
  | serializeError
  | ioError
  | controlMessageTooLarge (size : Nat)
  | connectionWasClosedByPeer
  deriving DecidableEq

inductive StreamWorkerError where
  | receiveError (cause : Channel.Received WorkerMessage)
  | streamWorkerSendError
  | streamWorkerIoError
  deriving DecidableEq

inductive Error where
  | ioError
  | parseAddressError
  | workerTerminated
  | streamWorkerError (cause : StreamWorkerError)
  | publishWorkerMessageError
  | unexpectedServerMessage (message : ServerMessage)
  | unexpectedClientMessage (message : ClientMessage)
  | sendStreamStatsError
  | joinTaskError
  | protocolReadTimeout
  | serverWriteError (cause : NetUtilError)
  | serverReadError (cause : NetUtilError)
  | clientWriteError (cause : NetUtilError)
  | clientReadError (cause : NetUtilError)
  | clientError (error : ClientError)
  | serverError (error : ServerError)
  deriving DecidableEq

end Iperf
