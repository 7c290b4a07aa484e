import TaskLink.Scenario.Stage

/-!
# Steps

A scenario is told in steps.  Each names the object that it is about and what
happens to it; while a call waits, another object may serve it, or a context
may be terminated.
-/

namespace TaskLink

inductive SessionRoute where
  | scripted (endpoint : String) (answers : List (Except SessionError (Option String)))
  | direct
  | shared
  | retried (strategy : Backoff)

inductive Creation where
  | context
  | requester (settings : ClientSettings) (interrupt : Option Interrupt)
  | framed (settings : ClientSettings)
  | subscriber (settings : ClientSettings)
  | responder (settings : ServerSettings)
  | publisher (settings : ServerSettings)
  | lifecycle (role : SocketRole) (endpoint : Endpoint) (options : SocketOptions)
  | beacon (beacon : Beacon)
  | monitor (endpoint : Endpoint) (options : SocketOptions) (limit : Option Duration)
  | session (options : SessionOptions) (route : SessionRoute)

inductive Action where
  | create (creation : Creation)
  | drop
  | terminate
  | pause (span : Duration)
  | synchronize
  | start
  | stop
  | establish
  | destroy
  | renew
  | isRunning
  | kind
  | endpoint
  | journal
  | state
  | isPublishing
  | awaitPublishing
  | setPayload (payload : ByteArray)
  | latest
  | awaitLatest (expected : Option String)
  | takeRequest
  | awaitRequest
  | call (call : Call)
  | callBytes (call : Call)
  | callDefault (message : ByteArray)
  | request (message : ByteArray)
  | exchange (frames : List ByteArray) (timeout : Duration)
  | execute (parameters : Json) (timeout : Option Duration)
  | executeDefault (parameters : Json)
  | executeRaw (command : String) (timeout : Option Duration) (bits : UInt32)
  | envelope (parameters : Json)
  | identity
  | options
  | startMonitor
  | stopMonitor
  | receive (timeout : Option Duration)
  | receiveFrames (timeout : Option Duration)
  | receiveLatest (timeout : Option Duration)
  | poll (wait : Duration)
  | send (reply : ByteArray)
  | sendFrames (frames : List ByteArray)
  | publish (message : ByteArray)
  | raise (bits : UInt32)
  | clear (bits : UInt32)
  | checks
  | setInterrupt (interrupt : Option Interrupt)

structure Serving where
  server : String
  replies : List HelperReply
  keepsFrames : Bool := false

structure Step where
  name : String
  action : Action
  context : Option String := none
  serving : Option Serving := none
  ending : Option String := none

end TaskLink
