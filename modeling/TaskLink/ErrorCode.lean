import TaskLink.Json.Reader

/-!
# Error codes

The machine-readable kind of an error, the same for every layer, and its text
in data exchange.
-/

namespace TaskLink

inductive ErrorCode where
  | failed
  | invalidArguments
  | notInitialized
  | invalidState
  | timeout
  | userInterrupt
  | transportFault
  | noResponse
  | commandFailed
  deriving DecidableEq, Repr

namespace ErrorCode

def all : List ErrorCode :=
  [.failed, .invalidArguments, .notInitialized, .invalidState, .timeout, .userInterrupt,
   .transportFault, .noResponse, .commandFailed]

def name : ErrorCode → String
  | .failed => "Failed"
  | .invalidArguments => "InvalidArguments"
  | .notInitialized => "NotInitialized"
  | .invalidState => "InvalidState"
  | .timeout => "Timeout"
  | .userInterrupt => "UserInterrupt"
  | .transportFault => "TransportFault"
  | .noResponse => "NoResponse"
  | .commandFailed => "CommandFailed"

def isRetryable : ErrorCode → Bool
  | .timeout | .transportFault | .noResponse => true
  | _ => false

def ofName? (name : String) : Option ErrorCode :=
  all.find? fun code => code.name == name

/-- A code from its name, or from an object with the name as its only key and nothing under it. -/
def ofDraft? : JsonDraft → Option ErrorCode
  | .text (.ok name) => ofName? name
  | .object [(.ok name, .null)] => ofName? name
  | _ => none

def read? (text : String) : Option ErrorCode :=
  match JsonDraft.read text with
  | .ok draft => ofDraft? draft
  | .error _ => none

theorem ofName?_name (code : ErrorCode) : ofName? code.name = some code := by
  cases code <;> decide

end ErrorCode

end TaskLink
