import TaskLink.Json.Printer
import TaskLink.Session.Identity

/-!
# Commands and replies

A command travels in an envelope that names the session it is for.  Its reply
is JSON, in which an error code marks a command that failed.
-/

namespace TaskLink

/-! ## Envelopes -/

def mergeMembers (defaults overrides : List (String × Json)) : List (String × Json) :=
  overrides.foldl (fun merged (key, value) => JsonTree.insertMember key value merged) defaults

/-- Parameters of a command over the defaults; what is not an object stays as it is. -/
def mergeParameters (defaults parameters : Json) : Json :=
  match defaults, parameters with
  | .object defaults, .object overrides => .object (mergeMembers defaults overrides)
  | _, other => other

structure Envelope where
  identity : SessionIdentity
  taskType : String
  taskParameters : Json
  userInfo : Json

def Envelope.toJson (envelope : Envelope) (parameters : Json) : Json :=
  .ofMembers [
    ("fnname", .text "RunCommand"),
    ("taskparams", .ofMembers [
      ("tasktype", .text envelope.taskType),
      ("taskparameters", mergeParameters envelope.taskParameters parameters),
      ("sceneparams", .ofMembers [("scenepk", .text envelope.identity.sceneKey)])]),
    ("userinfo", envelope.userInfo),
    ("slaverequestid", .text envelope.identity.slaveRequestId)]

/-! ## Replies -/

def longestDescription : Nat := 1000

/-- An error code as text: a text as it is, anything else as JSON. -/
def errorCodeText : Json → String
  | .text code => code
  | other => other.compact

def errorDescription (errorCode : String) (error : Json) : String :=
  let description :=
    match (error.member? "description").bind JsonTree.text? with
    | some text => if text.isEmpty then errorCode else text
    | none => errorCode
  String.ofList (description.toList.take longestDescription)

def replyFailure? (reply : Json) : Option SessionError :=
  match reply.member? "error" with
  | none => none
  | some error =>
      match error.member? "errorcode" with
      | none => none
      | some code =>
          let errorCode := errorCodeText code
          some (.commandFailed errorCode (errorDescription errorCode error))

/-- The value of a reply, unless it is no JSON or reports a failure. -/
def readReply (reply : String) : Except SessionError Json :=
  match Json.readOrExplain reply with
  | .error explanation => .error (.invalidReply s!"{explanation}: {excerpt reply}")
  | .ok value =>
      match replyFailure? value with
      | some failure => .error failure
      | none => .ok value

end TaskLink
