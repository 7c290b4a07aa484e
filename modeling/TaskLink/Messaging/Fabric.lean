import TaskLink.Link.Endpoint

/-!
# Messaging fabric

What clients and servers ask of the messaging library.  Sockets live in
surroundings of some type `σ`: every operation takes the surroundings and
returns them as they are afterwards, and a clock that is part of them tells
how long it took.
-/

namespace TaskLink

/-! ## Contexts, sockets and roles -/

/-- A context on which sockets are created; it goes away with its last holder. -/
structure ContextId where
  number : Nat
  deriving DecidableEq

/-- A socket; no number is ever given out twice. -/
structure SocketId where
  number : Nat
  deriving DecidableEq

inductive SocketRole where
  | requester
  | responder
  | publisher
  | subscriber
  deriving DecidableEq

namespace SocketRole

def tag : SocketRole → String
  | requester => "ZMQ-REQ"
  | responder => "ZMQ-REP"
  | publisher => "ZMQ-PUB"
  | subscriber => "ZMQ-SUB"

/-- Servers and publishers bind; clients and subscribers connect. -/
def binds : SocketRole → Bool
  | responder | publisher => true
  | requester | subscriber => false

def broadcasts : SocketRole → Bool
  | publisher | subscriber => true
  | requester | responder => false

end SocketRole

/-! ## Waiting -/

inductive Readiness where
  | readable
  | writable
  deriving DecidableEq

inductive Wait where
  | forever
  | millis (count : Nat)
  deriving DecidableEq

def longestPoll : Nat := 9223372036854775807

/-- A wait in whole milliseconds: parts of a microsecond are dropped, then it is rounded up. -/
def pollMillis (wait : Duration) : Nat :=
  Nat.min ((wait.micros + 999) / 1000) longestPoll

def Wait.lasting (wait : Duration) : Wait :=
  .millis (pollMillis wait)

/-- A limit on a wait, and the time of the clock at which it is reached. -/
structure Deadline where
  limit : Duration
  finish : Nat
  deriving DecidableEq

/-! ## The fabric -/

/-- Why a socket could not be opened: it was not created, not tuned, or not bound or connected. -/
inductive OpenFault where
  | create (fault : SocketFault)
  | tune (fault : SocketFault)
  | attach (fault : SocketFault)
  deriving DecidableEq

/-- A frame as it is read, and how many frames of its message follow it. -/
structure ReceivedFrame where
  bytes : ByteArray
  following : Nat

/--
The operations of the messaging library.  Sending and receiving never wait;
only `poll` and `sleep` do.  A socket that fails to open leaves nothing behind.
-/
structure Fabric (σ : Type) where
  newContext : σ → ContextId × σ
  openSocket : ContextId → SocketRole → Endpoint → SocketOptions → σ → Except OpenFault SocketId × σ
  closeSocket : SocketId → σ → σ
  /-- Send a frame; the flag tells whether more frames of the message follow. -/
  send : SocketId → ByteArray → Bool → σ → Except SocketFault Unit × σ
  receive : SocketId → σ → Except SocketFault ReceivedFrame × σ
  poll : SocketId → Readiness → Wait → σ → Except SocketFault Bool × σ
  /-- Number of messages that wait to be read, at least. -/
  backlog : SocketId → σ → Nat
  /-- Nanoseconds that have passed. -/
  clock : σ → Nat
  sleep : Duration → σ → σ

namespace Fabric

variable {σ : Type} (fabric : Fabric σ)

/-! ## Whole messages -/

/-- Append the frames that follow to what was read of a message. -/
def joinFollowing (socket : SocketId) : Nat → ByteArray → σ → Except SocketFault ByteArray × σ
  | 0, payload, s => (.ok payload, s)
  | count + 1, payload, s =>
      match fabric.receive socket s with
      | (.error fault, s) => (.error fault, s)
      | (.ok frame, s) => joinFollowing socket count (payload ++ frame.bytes) s

def receiveJoined (socket : SocketId) (s : σ) : Except SocketFault ByteArray × σ :=
  match fabric.receive socket s with
  | (.error fault, s) => (.error fault, s)
  | (.ok frame, s) => fabric.joinFollowing socket frame.following frame.bytes s

def collectFollowing (socket : SocketId) :
    Nat → List ByteArray → σ → Except SocketFault (List ByteArray) × σ
  | 0, frames, s => (.ok frames, s)
  | count + 1, frames, s =>
      match fabric.receive socket s with
      | (.error fault, s) => (.error fault, s)
      | (.ok frame, s) => collectFollowing socket count (frames ++ [frame.bytes]) s

def receiveFrames (socket : SocketId) (s : σ) : Except SocketFault (List ByteArray) × σ :=
  match fabric.receive socket s with
  | (.error fault, s) => (.error fault, s)
  | (.ok frame, s) => fabric.collectFollowing socket frame.following [frame.bytes] s

def sendFrames (socket : SocketId) : List ByteArray → σ → Except SocketFault Unit × σ
  | [], s => (.ok (), s)
  | frame :: rest, s =>
      match fabric.send socket frame (!rest.isEmpty) s with
      | (.error fault, s) => (.error fault, s)
      | (.ok (), s) => sendFrames socket rest s

/-! ## Readiness -/

/-- Whether a message can be read within a wait; an interrupted poll found nothing. -/
def pollReadable (socket : SocketId) (wait : Wait) (s : σ) : Except SocketFault Bool × σ :=
  match fabric.poll socket .readable wait s with
  | (.error .interrupted, s) => (.ok false, s)
  | polled => polled

/-- What is read if anything can be read within the timeout; without one nothing is waited for. -/
def readWithin {α : Type} (read : SocketId → σ → Except SocketFault α × σ) (timeout : Option Duration)
    (socket : SocketId) (s : σ) : Except SocketFault (Option α) × σ :=
  let readNow (s : σ) : Except SocketFault (Option α) × σ :=
    match read socket s with
    | (.ok message, s) => (.ok (some message), s)
    | (.error .wouldBlock, s) => (.ok none, s)
    | (.error fault, s) => (.error fault, s)
  match timeout with
  | none => readNow s
  | some wait =>
      match fabric.pollReadable socket (.lasting wait) s with
      | (.error fault, s) => (.error fault, s)
      | (.ok false, s) => (.ok none, s)
      | (.ok true, s) => readNow s

/-! ## Deadlines -/

/-- The deadline that a limit sets from now on; past the end of representable time there is none. -/
def deadline (limit : Duration) (s : σ) : Option Deadline :=
  let finish := fabric.clock s + limit.nanos
  if finish < 9223372036854775808 * nanosPerSec then some ⟨limit, finish⟩ else none

def remaining (deadline : Deadline) (s : σ) : Duration :=
  .ofNanos (deadline.finish - fabric.clock s)

end Fabric

end TaskLink
