import TaskLink.Session.Error

/-!
# Errors of the tool

An error is reported with its kind and with the causes behind it, each after a
colon.
-/

namespace TaskLink

def LinkError.chain (error : LinkError) : List String :=
  match error with
  | .refused fault => [error.message, fault.message]
  | _ => [error.message]

def ConfigurationError.chain (error : ConfigurationError) : List String :=
  match error with
  | .unreadable fault => [error.message, fault.message]
  | .badSyntax detail => [error.message, detail]
  | _ => [error.message]

def SessionError.chain (error : SessionError) : List String :=
  match error with
  | .link error => error.chain
  | .configuration cause => error.message :: cause.chain
  | _ => [error.message]

inductive ToolError where
  | notLoaded (error : ConfigurationError)
  | invalid (error : ConfigurationError)
  | failed (error : SessionError)
  deriving DecidableEq

namespace ToolError

def code : ToolError → ErrorCode
  | .notLoaded _ | .invalid _ => .invalidArguments
  | .failed error => error.code

def chain : ToolError → List String
  | .notLoaded error => "Failed to load configuration" :: error.chain
  | .invalid error => error.chain
  | .failed error => error.chain

def line (error : ToolError) : String :=
  s!"{error.code.name}: " ++ ": ".intercalate error.chain

end ToolError

end TaskLink
