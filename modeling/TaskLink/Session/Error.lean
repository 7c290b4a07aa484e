import TaskLink.Configuration.Error
import TaskLink.Link.Error

/-!
# Errors of a session
-/

namespace TaskLink

inductive SessionError where
  | link (error : LinkError)
  | noHeartbeat (endpoint : String)
  | incompleteIdentity (endpoint missing : String)
  | noResponse (command : String)
  | commandFailed (errorCode description : String)
  | invalidReply (detail : String)
  | invalidArguments (detail : String)
  | invalidState (detail : String)
  | configuration (error : ConfigurationError)
  | worker (detail : String)
  deriving DecidableEq

namespace SessionError

def message : SessionError → String
  | .link error => error.message
  | .noHeartbeat endpoint =>
      s!"Failed to obtain heartbeat from {endpoint}. Is controller running?"
  | .incompleteIdentity endpoint missing =>
      s!"Heartbeat from {endpoint} did not provide {missing}"
  | .noResponse command => s!"No response to command {command}"
  | .commandFailed errorCode description => s!"Command failed ({errorCode}): {description}"
  | .invalidReply detail => s!"Invalid reply: {detail}"
  | .invalidArguments detail => s!"Invalid arguments: {detail}"
  | .invalidState detail => s!"Invalid state: {detail}"
  | .configuration error => s!"Configuration error: {error.message}"
  | .worker detail => s!"Thread error: {detail}"

def code : SessionError → ErrorCode
  | .link error => error.code
  | .noHeartbeat _ | .noResponse _ => .noResponse
  | .commandFailed _ _ => .commandFailed
  | .invalidArguments _ | .configuration _ => .invalidArguments
  | .invalidState _ => .invalidState
  | .incompleteIdentity _ _ | .invalidReply _ | .worker _ => .failed

def isRetryable (error : SessionError) : Bool :=
  error.code.isRetryable

end SessionError

end TaskLink
