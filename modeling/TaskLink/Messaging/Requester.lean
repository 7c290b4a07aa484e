import TaskLink.Link.Preempt
import TaskLink.Messaging.Lifecycle
import TaskLink.Text.Utf8

/-!
# Request client

A request socket strictly alternates between sending and receiving.  A call
keeps that alternation across failures: a refused send replaces the socket and
tries once more, a failed receive replaces the socket and fails the call, and
a call that gives up waiting leaves the socket to the next call, whose first
send is then refused.
-/

namespace TaskLink

/-- A source that is asked between polls whether a wait that watches some bits is to end. -/
abbrev Preempt (σ : Type) := UInt32 → σ → Bool × σ

def PreemptFlags.source {σ : Type} (flags : PreemptFlags) : Preempt σ :=
  fun bits s => (flags.isPreempted bits, s)

structure Requester (σ : Type) where
  settings : ClientSettings
  lifecycle : Lifecycle
  preempt : Option (Preempt σ) := none

structure Call where
  message : ByteArray
  timeout : Option Duration := none
  bits : UInt32 := 0

namespace Call

def text (call : Call) : String :=
  decodeLenient call.message

end Call

namespace Requester

variable {σ : Type}

/-- A client with valid settings; it opens its socket on `shared` or on a context of its own. -/
def create (settings : ClientSettings) (shared : Option ContextId)
    (preempt : Option (Preempt σ)) : Except LinkError (Requester σ) :=
  match settings.validate with
  | .error error => .error error
  | .ok () =>
      .ok {
        settings := settings
        lifecycle :=
          { role := .requester, endpoint := settings.endpoint, options := settings.options,
            shared := shared }
        preempt := preempt }

def kind : String := "zmq-req"

/-! ## Sending -/

variable (fabric : Fabric σ)

def resend (message : ByteArray) (socket : SocketId) (lifecycle : Lifecycle) (s : σ) :
    Except LinkError SocketId × Lifecycle × σ :=
  match fabric.send socket message false s with
  | (.ok (), s) => (.ok socket, lifecycle, s)
  | (.error fault, s) =>
      let endpoint := lifecycle.endpoint.text
      (.error (.sendFailed s!"{endpoint}: {fault.message}"),
        lifecycle.error
          s!"Failed to send request to {endpoint} after re-creating socket: {fault.message}", s)

/-- Send a request; if it is refused the socket is replaced, and the request sent once more. -/
def sendWithRecovery (message : ByteArray) (socket : SocketId) (lifecycle : Lifecycle) (s : σ) :
    Except LinkError SocketId × Lifecycle × σ :=
  match fabric.send socket message false s with
  | (.ok (), s) => (.ok socket, lifecycle, s)
  | (.error fault, s) =>
      let noted :=
        (lifecycle.error
          s!"Failed to send request to {lifecycle.endpoint.text}: {fault.message}").info
          "Re-creating zmq socket and trying again"
      match noted.renew fabric s with
      | (.error error, lifecycle, s) => (.error error, lifecycle, s)
      | (.ok socket, lifecycle, s) => resend fabric message socket lifecycle s

/-! ## Waiting -/

def watched (preempt : Option (Preempt σ)) (bits : UInt32) : Option (Preempt σ) :=
  if bits = 0 then none else preempt

def askWatched (watching : Option (Preempt σ)) (bits : UInt32) (s : σ) : Bool × σ :=
  match watching with
  | some ask => ask bits s
  | none => (false, s)

/--
Length of the next poll: until the deadline, but no longer than the poll
interval if a source is watched.  Past the deadline there is only its limit.
-/
def nextWait (watching : Bool) (interval : Duration) (deadline : Option Deadline) (s : σ) :
    Except Duration Wait :=
  match deadline with
  | some deadline =>
      let remaining := fabric.remaining deadline s
      if remaining.isZero then .error deadline.limit
      else if watching then .ok (.lasting (remaining.min interval))
      else .ok (.lasting remaining)
  | none => if watching then .ok (.lasting interval) else .ok .forever

def failReceive (fault : SocketFault) (lifecycle : Lifecycle) (s : σ) :
    Except LinkError ByteArray × Lifecycle × σ :=
  let endpoint := lifecycle.endpoint.text
  let noted := lifecycle.error s!"Failed to receive response from {endpoint}: {fault.message}"
  (.error (.receiveFailed s!"{endpoint}: {fault.message}"), noted.recover fabric s)

def preemptedLine (call : Call) (started : Nat) (s : σ) : String :=
  let elapsed := Duration.ofNanos (fabric.clock s - started)
  s!"Preempted after {elapsed.millisText}s waiting for response of command {excerpt call.text}"

def readReply (socket : SocketId) (lifecycle : Lifecycle) (s : σ) :
    Except LinkError ByteArray × Lifecycle × σ :=
  match fabric.receiveJoined socket s with
  | (.ok reply, s) => (.ok reply, lifecycle, s)
  | (.error fault, s) => failReceive fabric fault lifecycle s

/--
Wait for the reply to a call that began at `started`.  Before every poll the
watched source is asked, then the deadline is checked.  Nothing is returned
when `fuel` polls did not settle the call.
-/
def awaitReply (watching : Option (Preempt σ)) (interval : Duration) (call : Call)
    (started : Nat) (deadline : Option Deadline) (socket : SocketId) :
    Nat → Lifecycle → σ → Option (Except LinkError ByteArray × Lifecycle × σ)
  | 0, _, _ => none
  | fuel + 1, lifecycle, s =>
      match askWatched watching call.bits s with
      | (true, s) =>
          some (.error (.userInterrupt call.text call.bits),
            lifecycle.error (preemptedLine fabric call started s), s)
      | (false, s) =>
          match nextWait fabric watching.isSome interval deadline s with
          | .error limit =>
              let error := LinkError.timeout call.text limit
              some (.error error, lifecycle.error error.message, s)
          | .ok wait =>
              match fabric.pollReadable socket wait s with
              | (.ok true, s) => some (readReply fabric socket lifecycle s)
              | (.ok false, s) =>
                  awaitReply watching interval call started deadline socket fuel lifecycle s
              | (.error fault, s) => some (failReceive fabric fault lifecycle s)

/-! ## Calls -/

def exchange (client : Requester σ) (fuel : Nat) (call : Call) (socket : SocketId) (s : σ) :
    Option (Except LinkError ByteArray × Lifecycle × σ) :=
  match sendWithRecovery fabric call.message socket client.lifecycle s with
  | (.error error, lifecycle, s) => some (.error error, lifecycle, s)
  | (.ok socket, lifecycle, s) =>
      awaitReply fabric (watched client.preempt call.bits) client.settings.pollInterval call
        (fabric.clock s) (call.timeout.bind (fabric.deadline · s)) socket fuel lifecycle s

/--
Send a request and wait for its reply.  A request that is too large is refused
before anything else; without a timeout the wait may have no end.
-/
def callBytes (client : Requester σ) (fuel : Nat) (call : Call) (s : σ) :
    Option (Except LinkError ByteArray × Requester σ × σ) :=
  let limit := client.settings.maxMessageSize.toNat
  if limit < call.message.size then
    some (.error (.messageTooLarge call.message.size limit), client, s)
  else
    match client.lifecycle.live with
    | .error error => some (.error error, client, s)
    | .ok socket =>
        (exchange fabric client fuel call socket s).map fun (result, lifecycle, s) =>
          (result, { client with lifecycle := lifecycle }, s)

def replyText (reply : ByteArray) : Except LinkError String :=
  match decodeUtf8 reply with
  | .ok text => .ok text
  | .error fault => .error (.invalidMessage s!"reply is not UTF-8: {fault.message}")

def call (client : Requester σ) (fuel : Nat) (call : Call) (s : σ) :
    Option (Except LinkError String × Requester σ × σ) :=
  (callBytes fabric client fuel call s).map fun (result, client, s) =>
    (result.bind replyText, client, s)

/-- The call of a message that names nothing else: default deadline, no preemption. -/
def defaultCall (client : Requester σ) (message : ByteArray) : Call :=
  { message := message, timeout := client.settings.defaultTimeout }

end Requester

end TaskLink
