import TaskLink.Messaging.Fabric

/-!
# A network of sockets

The rules by which sockets take turns and messages travel, for sockets that
all live on one machine.  A requester and its responder alternate, a reply
goes to the very socket that asked, a published message goes to everyone who
is connected, and what a closed socket held is gone.
-/

namespace TaskLink

/-! ## Sockets -/

/-- A message under way: where it came from and its frames, of which there is at least one. -/
structure Parcel where
  sender : SocketId
  frame : ByteArray
  following : List ByteArray := []

/-- Whether a socket may send or receive next; a responder sends to the one that asked. -/
inductive Turn where
  | toSend (peer : Option SocketId)
  | toReceive
  deriving DecidableEq

structure NetworkSocket where
  context : ContextId
  role : SocketRole
  endpoint : Endpoint
  turn : Turn
  /-- Frames of the message that is being sent. -/
  composed : List ByteArray := []
  /-- Messages to be read; the first may have been read in part. -/
  inbox : List Parcel := []
  /-- Requests that wait for a responder. -/
  outbox : List Parcel := []

/-- Whether a socket is ready. -/
def NetworkSocket.isReady (socket : NetworkSocket) : Readiness → Bool
  | .readable => socket.turn = .toReceive && !socket.inbox.isEmpty
  | .writable => socket.turn != .toReceive

/-- All sockets, in the order in which they were opened, and the contexts that were terminated. -/
structure Network where
  clock : Nat := 0
  nextContext : Nat := 0
  nextSocket : Nat := 0
  sockets : List (SocketId × NetworkSocket) := []
  terminated : List ContextId := []

/-! ## Addresses -/

def startsAddress (c : Char) : Bool :=
  c.isAlphanum || c == '[' || c == ':'

def continuesAddress (c : Char) : Bool :=
  c.isAlphanum || [':', '.', '-', '%', ';', '[', ']', '_', '*'].contains c

namespace Endpoint

def isConnectable (endpoint : Endpoint) : Bool :=
  match endpoint.host.toList with
  | [] => true
  | first :: rest => startsAddress first && rest.all continuesAddress

def isLocal (endpoint : Endpoint) : Bool :=
  endpoint.host.isEmpty || endpoint.host == "localhost" || endpoint.host == "0.0.0.0" ||
    "127.".toList.isPrefixOf endpoint.host.toList

end Endpoint

/-- Whether the library refuses to tune a socket of a role like this. -/
def SocketOptions.areRefused (options : SocketOptions) (role : SocketRole) : Bool :=
  (options.keepalive &&
    (options.keepaliveIdle < -1 || options.keepaliveInterval < -1 ||
      options.keepaliveCount < -1)) ||
  (role.broadcasts && (options.highWaterMark < 0 || options.lingerMillis < -1))

namespace Network

/-! ## Looking up -/

def find? (network : Network) (id : SocketId) : Option NetworkSocket :=
  network.sockets.lookup id

def modify (network : Network) (id : SocketId) (change : NetworkSocket → NetworkSocket) :
    Network :=
  { network with
    sockets := network.sockets.map fun (key, socket) =>
      (key, if key = id then change socket else socket) }

def boundTo? (network : Network) (role : SocketRole) (port : UInt16) : Option SocketId :=
  (network.sockets.find? fun (_, socket) =>
    socket.role = role && socket.endpoint.port == port).map (·.1)

def isBound (network : Network) (port : UInt16) : Bool :=
  network.sockets.any fun (_, socket) => socket.role.binds && socket.endpoint.port == port

def isTerminated (network : Network) (context : ContextId) : Bool :=
  network.terminated.contains context

/-! ## Time -/

def stepNanos : Nat := 20000

def elapse (network : Network) (nanos : Nat) : Network :=
  { network with clock := network.clock + nanos }

def tick (network : Network) : Network :=
  network.elapse stepNanos

/-! ## Delivery -/

def deliver (network : Network) (parcel : Parcel) (receiver : SocketId) : Network :=
  network.modify receiver fun socket => { socket with inbox := socket.inbox ++ [parcel] }

/-- Bring a request to the responder at an endpoint, or keep it until there is one. -/
def sendRequest (network : Network) (endpoint : Endpoint) (parcel : Parcel) : Network :=
  match endpoint.isLocal, network.boundTo? .responder endpoint.port with
  | true, some responder => network.deliver parcel responder
  | _, _ =>
      network.modify parcel.sender fun socket =>
        { socket with outbox := socket.outbox ++ [parcel] }

def broadcast (network : Network) (port : UInt16) (parcel : Parcel) : Network :=
  { network with
    sockets := network.sockets.map fun (key, socket) =>
      if socket.role = .subscriber && socket.endpoint.isLocal && socket.endpoint.port == port
      then (key, { socket with inbox := socket.inbox ++ [parcel] })
      else (key, socket) }

def dispatch (network : Network) (socket : NetworkSocket) (parcel : Parcel) : Network :=
  match socket.role, socket.turn with
  | .requester, _ => network.sendRequest socket.endpoint parcel
  | .responder, .toSend (some peer) => network.deliver parcel peer
  | .publisher, _ => network.broadcast socket.endpoint.port parcel
  | _, _ => network

/-! ## Opening and closing -/

def newContext (network : Network) : ContextId × Network :=
  (⟨network.nextContext⟩, { network with nextContext := network.nextContext + 1 })

/-- Terminate a context: its sockets stay, but nothing can be done with them any more. -/
def terminate (network : Network) (context : ContextId) : Network :=
  { network with terminated := context :: network.terminated }

def firstTurn : SocketRole → Turn
  | .requester | .publisher => .toSend none
  | .responder | .subscriber => .toReceive

def openFault? (network : Network) (context : ContextId) (role : SocketRole)
    (endpoint : Endpoint) (options : SocketOptions) : Option OpenFault :=
  if network.isTerminated context then some (.create .contextTerminated)
  else if options.areRefused role then some (.tune .invalidArgument)
  else if role.binds then
    if endpoint.port != 0 && network.isBound endpoint.port then some (.attach .addressInUse)
    else none
  else if endpoint.isConnectable then none
  else some (.attach .invalidArgument)

/-- Requests that wait for a responder at a port, the sender's oldest first. -/
def waitingFor (network : Network) (port : UInt16) : List Parcel :=
  network.sockets.flatMap fun (_, socket) =>
    if socket.endpoint.isLocal && socket.endpoint.port == port then socket.outbox else []

def fetched (port : UInt16) (socket : NetworkSocket) : NetworkSocket :=
  if socket.endpoint.isLocal && socket.endpoint.port == port then { socket with outbox := [] }
  else socket

/-- Add a socket; a responder gets the requests that waited for it. -/
def addSocket (network : Network) (id : SocketId) (socket : NetworkSocket) : Network :=
  match socket.role with
  | .responder =>
      let port := socket.endpoint.port
      let others := network.sockets.map fun (key, other) => (key, fetched port other)
      { network with
        sockets := others ++ [(id, { socket with inbox := network.waitingFor port })] }
  | _ => { network with sockets := network.sockets ++ [(id, socket)] }

def openSocket (context : ContextId) (role : SocketRole) (endpoint : Endpoint)
    (options : SocketOptions) (network : Network) : Except OpenFault SocketId × Network :=
  match network.openFault? context role endpoint options with
  | some fault => (.error fault, network)
  | none =>
      let id : SocketId := ⟨network.nextSocket⟩
      let socket : NetworkSocket :=
        { context := context, role := role, endpoint := endpoint, turn := firstTurn role }
      (.ok id, { network.addSocket id socket with nextSocket := network.nextSocket + 1 })

def closeSocket (network : Network) (id : SocketId) : Network :=
  { network with sockets := network.sockets.filter fun (key, _) => key != id }

/-! ## Sending and receiving -/

def usable (network : Network) (id : SocketId) : Except SocketFault NetworkSocket :=
  match network.find? id with
  | none => .error .notSupported
  | some socket =>
      if network.isTerminated socket.context then .error .contextTerminated else .ok socket

def turnAfterSend : SocketRole → Turn
  | .requester | .responder | .subscriber => .toReceive
  | .publisher => .toSend none

def turnAfterReceive (sender : SocketId) : SocketRole → Turn
  | .requester | .publisher => .toSend none
  | .responder => .toSend (some sender)
  | .subscriber => .toReceive

def outOfTurn : SocketRole → SocketFault
  | .requester | .responder => .wrongState
  | .publisher | .subscriber => .notSupported

/-- A complete message of the frames sent so far and a last one. -/
def parcelOf (sender : SocketId) (last : ByteArray) : List ByteArray → Parcel
  | [] => ⟨sender, last, []⟩
  | first :: rest => ⟨sender, first, rest ++ [last]⟩

def send (id : SocketId) (frame : ByteArray) (more : Bool) (network : Network) :
    Except SocketFault Unit × Network :=
  match network.usable id with
  | .error fault => (.error fault, network)
  | .ok socket =>
      match socket.turn with
      | .toReceive => (.error (outOfTurn socket.role), network)
      | .toSend _ =>
          if more then
            (.ok (), (network.modify id fun socket =>
              { socket with composed := socket.composed ++ [frame] }).tick)
          else
            let sent := network.modify id fun socket =>
              { socket with composed := [], turn := turnAfterSend socket.role }
            (.ok (), (sent.dispatch socket (parcelOf id frame socket.composed)).tick)

/-- Receive a frame; with the last one of its message the turn may change. -/
def receive (id : SocketId) (network : Network) : Except SocketFault ReceivedFrame × Network :=
  match network.usable id with
  | .error fault => (.error fault, network)
  | .ok socket =>
      match socket.turn, socket.inbox with
      | .toSend _, _ => (.error (outOfTurn socket.role), network)
      | .toReceive, [] => (.error .wouldBlock, network)
      | .toReceive, ⟨sender, frame, next :: rest⟩ :: later =>
          (.ok ⟨frame, rest.length + 1⟩, (network.modify id fun socket =>
            { socket with inbox := ⟨sender, next, rest⟩ :: later }).tick)
      | .toReceive, ⟨sender, frame, []⟩ :: later =>
          (.ok ⟨frame, 0⟩, (network.modify id fun socket =>
            { socket with inbox := later, turn := turnAfterReceive sender socket.role }).tick)

/-! ## Polling -/

def isReady (id : SocketId) (readiness : Readiness) (network : Network) :
    Except SocketFault Bool :=
  (network.usable id).map (NetworkSocket.isReady · readiness)

/-- Nanoseconds that a poll lasts if nothing happens. -/
def waitNanos : Wait → Nat
  | .forever => 0
  | .millis count => count * nanosPerMilli

/-- Poll a socket; if it is not ready the wait passes, and nobody else acts meanwhile. -/
def poll (id : SocketId) (readiness : Readiness) (wait : Wait) (network : Network) :
    Except SocketFault Bool × Network :=
  match network.isReady id readiness with
  | .error fault => (.error fault, network)
  | .ok true => (.ok true, network.tick)
  | .ok false => (.ok false, (network.elapse (waitNanos wait)).tick)

def backlog (id : SocketId) (network : Network) : Nat :=
  match network.find? id with
  | some socket => socket.inbox.length
  | none => 0

def fabric : Fabric Network where
  newContext := newContext
  openSocket := openSocket
  closeSocket id network := network.closeSocket id
  send := send
  receive := receive
  poll := poll
  backlog := backlog
  clock network := network.clock
  sleep span network := network.elapse span.nanos

end Network

end TaskLink
