import TaskLink.Log.Journal
import TaskLink.Messaging.Fabric

/-!
# Socket lifecycle

A lifecycle holds at most one live socket and the context under it.  The
context is either its own or borrowed from the caller; only its own one is
given up with the socket.
-/

namespace TaskLink

inductive ContextOwnership where
  | owned
  | borrowed
  deriving DecidableEq

/--
One role's socket, and what it takes to open it again.  `shared` is the
context that `start` opens it on; without one it gets a context of its own.
-/
structure Lifecycle where
  role : SocketRole
  endpoint : Endpoint
  options : SocketOptions := {}
  shared : Option ContextId := none
  context : Option ContextId := none
  ownership : ContextOwnership := .owned
  socket : Option SocketId := none
  journal : Journal := {}
  deriving DecidableEq

namespace Lifecycle

/-! ## Views -/

def address (lifecycle : Lifecycle) : String :=
  if lifecycle.role.binds then lifecycle.endpoint.bindAddress
  else lifecycle.endpoint.connectAddress

def isLive (lifecycle : Lifecycle) : Bool :=
  lifecycle.socket.isSome

def live (lifecycle : Lifecycle) : Except LinkError SocketId :=
  match lifecycle.socket with
  | some socket => .ok socket
  | none =>
      .error (.notInitialized s!"{lifecycle.role.tag} socket for {lifecycle.endpoint.text}")

def info (lifecycle : Lifecycle) (line : String) : Lifecycle :=
  { lifecycle with journal := lifecycle.journal.info line }

def error (lifecycle : Lifecycle) (line : String) : Lifecycle :=
  { lifecycle with journal := lifecycle.journal.error line }

/-! ## Opening and closing -/

def openError (lifecycle : Lifecycle) : OpenFault → LinkError
  | .create fault => .initializationFailed s!"{lifecycle.role.tag} socket: {fault.message}"
  | .tune fault => .refused fault
  | .attach fault =>
      let detail := s!"{lifecycle.address}: {fault.message}"
      if lifecycle.role.binds then .bindFailed detail else .connectFailed detail

def openedLine (lifecycle : Lifecycle) : String :=
  if lifecycle.role.binds then s!"Listening on {lifecycle.address}"
  else s!"Connecting to socket at {lifecycle.address}"

variable {σ : Type} (fabric : Fabric σ)

def close (lifecycle : Lifecycle) (s : σ) : Lifecycle × σ :=
  match lifecycle.socket with
  | some socket => ({ lifecycle with socket := none }, fabric.closeSocket socket s)
  | none => (lifecycle, s)

def openOn (lifecycle : Lifecycle) (context : ContextId) (s : σ) :
    Except LinkError SocketId × Lifecycle × σ :=
  match fabric.openSocket context lifecycle.role lifecycle.endpoint lifecycle.options s with
  | (.ok socket, s) =>
      (.ok socket, { lifecycle.info lifecycle.openedLine with socket := some socket }, s)
  | (.error fault, s) => (.error (lifecycle.openError fault), lifecycle, s)

def openOnOwn (lifecycle : Lifecycle) (s : σ) : Except LinkError SocketId × Lifecycle × σ :=
  match fabric.newContext s with
  | (context, s) =>
      openOn fabric { lifecycle with context := some context, ownership := .owned } context s

def openOnShared (lifecycle : Lifecycle) (context : ContextId) (s : σ) :
    Except LinkError SocketId × Lifecycle × σ :=
  openOn fabric { lifecycle with context := some context, ownership := .borrowed } context s

/-- Close the socket and give up an own context; doing so again changes nothing. -/
def destroy (lifecycle : Lifecycle) (s : σ) : Lifecycle × σ :=
  match lifecycle.close fabric s with
  | (lifecycle, s) =>
      match lifecycle.ownership with
      | .owned => ({ lifecycle with context := none }, s)
      | .borrowed => (lifecycle, s)

/-- Open the socket on the given context or on a new one, after destroying what was there. -/
def establish (lifecycle : Lifecycle) (context : Option ContextId) (s : σ) :
    Except LinkError SocketId × Lifecycle × σ :=
  match lifecycle.destroy fabric s with
  | (lifecycle, s) =>
      match context with
      | some context => lifecycle.openOnShared fabric context s
      | none => lifecycle.openOnOwn fabric s

def renew (lifecycle : Lifecycle) (s : σ) : Except LinkError SocketId × Lifecycle × σ :=
  match lifecycle.close fabric s with
  | (lifecycle, s) =>
      match lifecycle.context with
      | some context => lifecycle.openOn fabric context s
      | none => lifecycle.openOnOwn fabric s

def start (lifecycle : Lifecycle) (s : σ) : Except LinkError SocketId × Lifecycle × σ :=
  if lifecycle.isLive then (.error .alreadyRunning, lifecycle, s)
  else lifecycle.establish fabric lifecycle.shared s

/-! ## Use -/

def receiving {α : Type} (lifecycle : Lifecycle) (use : SocketId → σ → Except SocketFault α × σ) (s : σ) :
    Except LinkError α × σ :=
  match lifecycle.live with
  | .error error => (.error error, s)
  | .ok socket =>
      match use socket s with
      | (.ok value, s) => (.ok value, s)
      | (.error fault, s) => (.error (.receiveFailed fault.message), s)

def sending {α : Type} (lifecycle : Lifecycle) (use : SocketId → σ → Except SocketFault α × σ) (s : σ) :
    Except LinkError α × σ :=
  match lifecycle.live with
  | .error error => (.error error, s)
  | .ok socket =>
      match use socket s with
      | (.ok value, s) => (.ok value, s)
      | (.error fault, s) =>
          (.error (.sendFailed s!"{lifecycle.address}: {fault.message}"), s)

/-! ## Recovery -/

/-- Replace the socket after a failed exchange; a failure to do so is only noted. -/
def recover (lifecycle : Lifecycle) (s : σ) : Lifecycle × σ :=
  match (lifecycle.info "Re-creating zmq socket").renew fabric s with
  | (.ok _, lifecycle, s) => (lifecycle, s)
  | (.error error, lifecycle, s) =>
      (lifecycle.error s!"Failed to re-create zmq socket: {error.message}", s)

/-! ## Laws -/

theorem destroy_destroy (lifecycle : Lifecycle) (s : σ) :
    let first := lifecycle.destroy fabric s
    first.1.destroy fabric first.2 = first := by
  cases lifecycle with
  | mk role endpoint options shared context ownership socket journal =>
      cases socket <;> cases ownership <;> simp [destroy, close]

theorem start_of_isLive (lifecycle : Lifecycle) (s : σ) (h : lifecycle.isLive = true) :
    lifecycle.start fabric s = (.error .alreadyRunning, lifecycle, s) := by
  simp [start, h]

end Lifecycle

end TaskLink
