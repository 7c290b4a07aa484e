import TaskLink.ErrorCode
import TaskLink.Number.Text

/-!
# Errors of a link

What the messaging library refuses, and the errors that clients and servers
report to their callers, with wording and code.
-/

namespace TaskLink

/-- Why the messaging library refused an operation. -/
inductive SocketFault where
  | interrupted
  | wouldBlock
  | invalidArgument
  | notSupported
  | addressInUse
  | wrongState
  | contextTerminated
  deriving DecidableEq, Repr

def SocketFault.message : SocketFault → String
  | .interrupted => "Interrupted system call"
  | .wouldBlock => "Resource temporarily unavailable"
  | .invalidArgument => "Invalid argument"
  | .notSupported => "Operation not supported"
  | .addressInUse => "Address already in use"
  | .wrongState => "Operation cannot be accomplished in current state"
  | .contextTerminated => "Context was terminated"

inductive LinkError where
  | initializationFailed (detail : String)
  | bindFailed (detail : String)
  | connectFailed (detail : String)
  | sendFailed (detail : String)
  | receiveFailed (detail : String)
  | timedOut (command : String) (limit : Duration)
  | exchangeTimedOut (phase : String) (limit : Duration)
  | interrupted (command : String) (bits : UInt32)
  | notInitialized (socket : String)
  | invalidState (detail : String)
  | peerError (detail : String)
  | alreadyRunning
  | invalidSettings (detail : String)
  | invalidArguments (detail : String)
  | messageTooLarge (size limit : Nat)
  | invalidMessage (detail : String)
  | refused (fault : SocketFault)
  deriving DecidableEq

namespace LinkError

/-- A command as an error quotes it: an excerpt without quotes and backslashes. -/
def quotable (command : String) : String :=
  String.ofList ((excerpt command).toList.filter fun c => c != '"' && c != '\\')

def timeout (command : String) (limit : Duration) : LinkError :=
  .timedOut (quotable command) limit

def userInterrupt (command : String) (bits : UInt32) : LinkError :=
  .interrupted (quotable command) bits

def maskText (bits : UInt32) : String :=
  "0x" ++ String.ofList (Nat.toDigits 16 bits.toNat)

def message : LinkError → String
  | .initializationFailed detail => s!"Initialization failed: {detail}"
  | .bindFailed detail => s!"Bind failed: {detail}"
  | .connectFailed detail => s!"Connect failed: {detail}"
  | .sendFailed detail => s!"Send failed: {detail}"
  | .receiveFailed detail => s!"Receive failed: {detail}"
  | .timedOut command limit =>
      s!"Timed out receiving response of command {command} after {limit.secondsText} seconds"
  | .exchangeTimedOut phase limit =>
      s!"Timed out trying to {phase} after {limit.secondsText} seconds"
  | .interrupted command bits =>
      s!"Preempted while waiting for response of command {command} (bits {maskText bits})"
  | .notInitialized socket => s!"Socket not initialized: {socket}"
  | .invalidState detail => s!"Invalid state: {detail}"
  | .peerError detail => s!"Peer reported an error: {detail}"
  | .alreadyRunning => "Transport is already running"
  | .invalidSettings detail => s!"Invalid configuration: {detail}"
  | .invalidArguments detail => s!"Invalid arguments: {detail}"
  | .messageTooLarge size limit => s!"Message too large: {size} bytes (max: {limit})"
  | .invalidMessage detail => s!"Invalid message: {detail}"
  | .refused fault => s!"ZMQ error: {fault.message}"

def code : LinkError → ErrorCode
  | .initializationFailed _ | .bindFailed _ | .connectFailed _ | .sendFailed _
  | .receiveFailed _ | .refused _ => .transportFault
  | .timedOut _ _ | .exchangeTimedOut _ _ => .timeout
  | .interrupted _ _ => .userInterrupt
  | .notInitialized _ => .notInitialized
  | .alreadyRunning | .invalidState _ => .invalidState
  | .peerError _ => .commandFailed
  | .invalidSettings _ | .invalidArguments _ | .messageTooLarge _ _ => .invalidArguments
  | .invalidMessage _ => .failed

def isRetryable (error : LinkError) : Bool :=
  error.code.isRetryable

end LinkError

end TaskLink
