import TaskLink.Session.TaskSession

/-!
# Answers

What a step of a scenario comes to.
-/

namespace TaskLink

inductive Answer where
  | nothing
  | flag (value : Bool)
  | count (value : Nat)
  | text (value : String)
  | bytes (value : ByteArray)
  | frames (value : List ByteArray)
  | json (value : Json)
  | journal (journal : Journal)
  | identity (identity : SessionIdentity)
  | session (identity : SessionIdentity) (endpoint : Endpoint)
  | options (options : SessionOptions)
  | lifecycle (lifecycle : Lifecycle)
  | success (answer : Answer)
  | linkFailure (error : LinkError)
  | sessionFailure (error : SessionError)
  | noObject
  | unsupported
  | unsettled
  | served (answer : Answer) (requests : List Answer)
  | fetched (answer : Answer) (fetches : Nat)
  | retried (answer : Answer) (strategy : Backoff)

namespace Answer

def done : Answer := success nothing

def orNothing {α : Type} (describe : α → Answer) : Option α → Answer
  | some value => describe value
  | none => nothing

def ofLink {α : Type} (describe : α → Answer) : Except LinkError α → Answer
  | .ok value => success (describe value)
  | .error error => linkFailure error

def ofSession {α : Type} (describe : α → Answer) : Except SessionError α → Answer
  | .ok value => success (describe value)
  | .error error => sessionFailure error

end Answer

end TaskLink
