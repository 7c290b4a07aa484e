import TaskLink.Messaging.Lifecycle
import TaskLink.Text.Utf8

/-!
# Framed request client

A request of one or more frames is answered by frames that begin with a
status: `t` and the payload, or `f` and what the peer has to say about its
failure.  The whole exchange has one deadline, and once a request may have
left, every failure replaces the socket, so that the next exchange begins
afresh.
-/

namespace TaskLink

/-! ## Status frames -/

def statusDone : ByteArray := "t".toUTF8

def statusFailed : ByteArray := "f".toUTF8

def splitStatus (reply : List ByteArray) : Except LinkError (List ByteArray) :=
  match reply with
  | [] => .error (.invalidState "unexpected response protocol")
  | status :: payload =>
      if status.data == statusDone.data then .ok payload
      else if status.data == statusFailed.data then
        match payload with
        | [reason] => .error (.peerError (decodeLenient reason))
        | _ => .error (.invalidState s!"unexpected number of frames in error: {reply.length}")
      else .error (.invalidState "unexpected response protocol")

/-! ## The client -/

/-- A client whose requests and replies are lists of frames. -/
structure FramedRequester where
  lifecycle : Lifecycle

namespace FramedRequester

/-- A client with valid settings; it opens its socket on `shared` or on a context of its own. -/
def create (settings : ClientSettings) (shared : Option ContextId) :
    Except LinkError FramedRequester :=
  match settings.validate with
  | .error error => .error error
  | .ok () =>
      .ok ⟨{ role := .requester, endpoint := settings.endpoint, options := settings.options,
             shared := shared }⟩

def kind : String := "zmq-req-framed"

variable {σ : Type} (fabric : Fabric σ)

/--
Poll until the socket is ready or the deadline has passed; an interrupted poll
is repeated.  Nothing is returned when `fuel` polls were interrupted.
-/
def awaitReady (socket : SocketId) (readiness : Readiness) (deadline : Option Deadline) :
    Nat → σ → Option (Except SocketFault Bool × σ)
  | 0, _ => none
  | fuel + 1, s =>
      let wait :=
        match deadline with
        | some deadline => Wait.lasting (fabric.remaining deadline s)
        | none => .forever
      match fabric.poll socket readiness wait s with
      | (.error .interrupted, s) => awaitReady socket readiness deadline fuel s
      | polled => some polled

def isPast (deadline : Option Deadline) (s : σ) : Bool :=
  match deadline with
  | some deadline => deadline.finish < fabric.clock s
  | none => false

def awaitFrames (fuel : Nat) (timeout : Duration) (deadline : Option Deadline)
    (socket : SocketId) (s : σ) : Option (Except LinkError (List ByteArray) × σ) :=
  match awaitReady fabric socket .readable deadline fuel s with
  | none => none
  | some (.error fault, s) => some (.error (.receiveFailed fault.message), s)
  | some (.ok false, s) => some (.error (.exchangeTimedOut "receive response" timeout), s)
  | some (.ok true, s) =>
      match fabric.receiveFrames socket s with
      | (.error fault, s) =>
          some (.error (.invalidState s!"unable to receive zmq message: {fault.message}"), s)
      | (.ok reply, s) => some (.ok reply, s)

/-- Send the frames, and wait for the reply as long as the deadline has not passed. -/
def exchangeFrames (fuel : Nat) (frames : List ByteArray) (timeout : Duration)
    (deadline : Option Deadline) (socket : SocketId) (s : σ) :
    Option (Except LinkError (List ByteArray) × σ) :=
  match fabric.sendFrames socket frames s with
  | (.error fault, s) =>
      some (.error (.invalidState s!"unable to send zmq message: {fault.message}"), s)
  | (.ok (), s) =>
      if isPast fabric deadline s then
        some (.error (.exchangeTimedOut "send request" timeout), s)
      else awaitFrames fabric fuel timeout deadline socket s

/-- What an exchange comes to: a reply loses its status, a failure replaces the socket. -/
def conclude (lifecycle : Lifecycle) (s : σ) :
    Except LinkError (List ByteArray) → Except LinkError (List ByteArray) × Lifecycle × σ
  | .ok reply => (splitStatus reply, lifecycle, s)
  | .error error =>
      let noted :=
        lifecycle.error s!"Exchange with {lifecycle.endpoint.text} failed: {error.message}"
      (.error error, noted.recover fabric s)

def exchangeOver (fuel : Nat) (frames : List ByteArray) (timeout : Duration)
    (socket : SocketId) (lifecycle : Lifecycle) (s : σ) :
    Option (Except LinkError (List ByteArray) × Lifecycle × σ) :=
  let deadline := fabric.deadline timeout s
  match awaitReady fabric socket .writable deadline fuel s with
  | none => none
  | some (.error fault, s) =>
      let detail := s!"{lifecycle.endpoint.text}: {fault.message}"
      some (.error (.sendFailed detail), lifecycle, s)
  | some (.ok false, s) =>
      some (.error (.exchangeTimedOut "send request" timeout), lifecycle, s)
  | some (.ok true, s) =>
      (exchangeFrames fabric fuel frames timeout deadline socket s).map fun (result, s) =>
        conclude fabric lifecycle s result

def exchange (client : FramedRequester) (fuel : Nat) (frames : List ByteArray)
    (timeout : Duration) (s : σ) :
    Option (Except LinkError (List ByteArray) × FramedRequester × σ) :=
  if frames.isEmpty then
    some (.error (.invalidArguments "given messages is empty"), client, s)
  else
    match client.lifecycle.live with
    | .error error => some (.error error, client, s)
    | .ok socket =>
        (exchangeOver fabric fuel frames timeout socket client.lifecycle s).map
          fun (result, lifecycle, s) => (result, ⟨lifecycle⟩, s)

end FramedRequester

end TaskLink
