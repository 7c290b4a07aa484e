import TaskLink.Messaging.Requester
import TaskLink.Proofs.Messaging.NetworkSockets
import TaskLink.Proofs.Messaging.Ownership

/-!
# A client and its peer

A client and one server talk over a network.  Whenever the client asks
something of the messaging library, the server first does whatever it likes,
time passes, and then the library may fail although the network would not.  A
history tells what both of them did, the latest event first.
-/

namespace TaskLink

/-! ## Events -/

inductive Reading where
  | joined (payload : ByteArray)
  | apart (frames : List ByteArray)

def Reading.IsOf (reading : Reading) (frames : List ByteArray) : Prop :=
  match reading with
  | .joined payload => payload = joinFrames frames
  | .apart read => read = frames

/-- What the client or its peer did; a message is told by the client's socket and its frames. -/
inductive ParleyEvent where
  | opened (socket : SocketId)
  | openingFailed
  /-- A poll found the socket ready to send. -/
  | admitted (socket : SocketId)
  /-- A frame was refused although the socket was ready to send. -/
  | declined (socket : SocketId)
  /-- The last frame of a request was accepted. -/
  | transmitted (socket : SocketId) (frames : List ByteArray)
  /-- The last frame of a reply was read. -/
  | replied (socket : SocketId)
  | taken (socket : SocketId) (request : Reading)
  | answered (socket : SocketId) (frames : List ByteArray)

/-- How far the exchange over a socket has come. -/
inductive Progress where
  | idle
  | asked (frames : List ByteArray)
  | taken
  | answered (frames : List ByteArray)

def Progress.IsSettled : Progress → Prop
  | .idle | .answered _ => True
  | .asked _ | .taken => False

namespace ParleyEvent

def isClients : ParleyEvent → Bool
  | .taken _ _ | .answered _ _ => false
  | _ => true

def mark (id : SocketId) : ParleyEvent → Option Progress
  | .transmitted socket frames => if socket = id then some (.asked frames) else none
  | .taken socket _ => if socket = id then some .taken else none
  | .answered socket frames => if socket = id then some (.answered frames) else none
  | _ => none

/-- Whom the peer owes an answer from an event on, if that changes. -/
def debt : ParleyEvent → Option (Option SocketId)
  | .taken socket _ => some (some socket)
  | .answered _ _ => some none
  | _ => none

/-- How far the exchange over a socket has come after some events. -/
def progress (id : SocketId) (history : List ParleyEvent) : Progress :=
  (history.findSome? (mark id)).getD .idle

def owed (history : List ParleyEvent) : Option SocketId :=
  (history.findSome? debt).getD none

/--
Whether an event is in order after others: a request follows no open one, what
is taken was asked, and what is answered was taken last.
-/
def MayFollow (earlier : List ParleyEvent) : ParleyEvent → Prop
  | .transmitted socket _ => (progress socket earlier).IsSettled
  | .taken socket request =>
      ∃ frames, progress socket earlier = .asked frames ∧ request.IsOf frames
  | .answered socket _ => progress socket earlier = .taken ∧ owed earlier = some socket
  | _ => True

def Orderly : List ParleyEvent → Prop
  | [] => True
  | event :: earlier => event.MayFollow earlier ∧ Orderly earlier

end ParleyEvent

/-! ## The peer -/

inductive PeerMove where
  | manage (operation : LifecycleOperation)
  | receive (timeout : Option Duration)
  | receiveFrames (timeout : Option Duration)
  | poll (wait : Duration)
  | send (reply : ByteArray)
  | sendFrames (frames : List ByteArray)

/--
What happens before a step of the client, and what the library makes of the
step: it may fail, and a poll may come out either way, whatever the network
would do.
-/
structure Interlude where
  moves : List PeerMove := []
  nanos : Nat := 0
  fault : Option SocketFault := none
  ready : Option Bool := none

/--
The surroundings of a client: the network, its peer, what happens before each
of the client's next steps, and what the preemption source will answer.
-/
structure Parley where
  network : Network := {}
  peer : Responder
  script : List Interlude := []
  answers : List Bool := []
  history : List ParleyEvent := []

namespace Parley

def note (parley : Parley) (event : ParleyEvent) : Parley :=
  { parley with history := event :: parley.history }

def served (parley : Parley) : Option SocketId :=
  parley.peer.lifecycle.socket

def deeds (parley : Parley) : List ParleyEvent :=
  parley.history.filter ParleyEvent.isClients

def addressee (network : Network) (socket : Option SocketId) : Option SocketId :=
  match socket.bind network.find? with
  | some socket =>
      match socket.turn with
      | .toSend peer => peer
      | .toReceive => none
  | none => none

def noteTaken (parley : Parley) (request : Reading) : Parley :=
  match addressee parley.network parley.served with
  | some socket => parley.note (.taken socket request)
  | none => parley

def afterReading {α : Type} (parley : Parley) (reading : α → Reading) :
    Except LinkError (Option α) × Network → Parley
  | (.ok (some request), network) =>
      noteTaken { parley with network := network } (reading request)
  | (_, network) => { parley with network := network }

/-- The surroundings after the peer has tried to answer the one whom it owed it. -/
def afterAnswering (parley : Parley) (frames : List ByteArray) :
    Except LinkError Unit × Network → Parley
  | (.ok (), network) =>
      match addressee parley.network parley.served with
      | some socket => { parley with network := network }.note (.answered socket frames)
      | none => { parley with network := network }
  | (.error _, network) => { parley with network := network }

end Parley

def PeerMove.perform (move : PeerMove) (parley : Parley) : Parley :=
  match move with
  | .manage operation =>
      match operation.perform Network.fabric parley.peer.lifecycle parley.network with
      | (_, lifecycle, network) => { parley with peer := ⟨lifecycle⟩, network := network }
  | .receive timeout =>
      parley.afterReading .joined (parley.peer.receive Network.fabric timeout parley.network)
  | .receiveFrames timeout =>
      parley.afterReading .apart (parley.peer.receiveFrames Network.fabric timeout parley.network)
  | .poll wait =>
      match parley.peer.poll Network.fabric wait parley.network with
      | (_, network) => { parley with network := network }
  | .send reply =>
      parley.afterAnswering [reply] (parley.peer.send Network.fabric reply parley.network)
  | .sendFrames frames =>
      parley.afterAnswering frames (parley.peer.sendFrames Network.fabric frames parley.network)

/-! ## The client's steps -/

namespace Parley

def after (parley : Parley) (interlude : Interlude) : Parley :=
  let moved := interlude.moves.foldl (fun parley move => move.perform parley) parley
  { moved with network := moved.network.elapse interlude.nanos }

/-- The interlude before the client's next step, and the surroundings after it. -/
def pass (parley : Parley) : Interlude × Parley :=
  match parley.script with
  | [] => ({}, parley)
  | interlude :: later => (interlude, { parley with script := later }.after interlude)

def noteRefusal (parley : Parley) (id : SocketId) : Parley :=
  match parley.network.find? id with
  | some socket => if socket.isReady .writable then parley.note (.declined id) else parley
  | none => parley

def composed (parley : Parley) (id : SocketId) : List ByteArray :=
  match parley.network.find? id with
  | some socket => socket.composed
  | none => []

def openSocket (context : ContextId) (role : SocketRole) (endpoint : Endpoint)
    (options : SocketOptions) (parley : Parley) : Except OpenFault SocketId × Parley :=
  match parley.pass with
  | (interlude, parley) =>
      match interlude.fault with
      | some fault => (.error (.create fault), parley.note .openingFailed)
      | none =>
          match parley.network.openSocket context role endpoint options with
          | (.ok id, network) => (.ok id, { parley with network := network }.note (.opened id))
          | (.error fault, network) =>
              (.error fault, { parley with network := network }.note .openingFailed)

def closeSocket (id : SocketId) (parley : Parley) : Parley :=
  match parley.pass with
  | (_, parley) => { parley with network := parley.network.closeSocket id }

def send (id : SocketId) (frame : ByteArray) (more : Bool) (parley : Parley) :
    Except SocketFault Unit × Parley :=
  match parley.pass with
  | (interlude, parley) =>
      match interlude.fault with
      | some fault => (.error fault, parley.noteRefusal id)
      | none =>
          match parley.network.send id frame more with
          | (.error fault, network) =>
              (.error fault, { parley with network := network }.noteRefusal id)
          | (.ok (), network) =>
              let sent := { parley with network := network }
              if more then (.ok (), sent)
              else (.ok (), sent.note (.transmitted id (parley.composed id ++ [frame])))

def receive (id : SocketId) (parley : Parley) : Except SocketFault ReceivedFrame × Parley :=
  match parley.pass with
  | (interlude, parley) =>
      match interlude.fault with
      | some fault => (.error fault, parley)
      | none =>
          match parley.network.receive id with
          | (.error fault, network) => (.error fault, { parley with network := network })
          | (.ok frame, network) =>
              let read := { parley with network := network }
              if frame.following = 0 then (.ok frame, read.note (.replied id))
              else (.ok frame, read)

def notePolled (parley : Parley) (id : SocketId) (readiness : Readiness) (ready : Bool) :
    Parley :=
  match readiness, ready with
  | .writable, true => parley.note (.admitted id)
  | _, _ => parley

def poll (id : SocketId) (readiness : Readiness) (wait : Wait) (parley : Parley) :
    Except SocketFault Bool × Parley :=
  match parley.pass with
  | (interlude, parley) =>
      match interlude.fault, interlude.ready with
      | some fault, _ => (.error fault, parley)
      | none, some ready => (.ok ready, parley.notePolled id readiness ready)
      | none, none =>
          match parley.network.poll id readiness wait with
          | (.error fault, network) => (.error fault, { parley with network := network })
          | (.ok ready, network) =>
              (.ok ready, { parley with network := network }.notePolled id readiness ready)

def fabric : Fabric Parley where
  newContext parley :=
    match parley.network.newContext with
    | (context, network) => (context, { parley with network := network })
  openSocket := openSocket
  closeSocket := closeSocket
  send := send
  receive := receive
  poll := poll
  backlog id parley := parley.network.backlog id
  clock parley := parley.network.clock
  sleep span parley := { parley with network := parley.network.elapse span.nanos }

/-- The preemption source, which gives the answers that are laid down for it. -/
def ask : Preempt Parley := fun _ parley =>
  match parley.answers with
  | [] => (false, parley)
  | answer :: later => (answer, { parley with answers := later })

end Parley

end TaskLink
