import TaskLink.Messaging.Lifecycle

/-!
# Reply server

A server takes one request at a time and must answer it before it takes the
next.  Nothing is recovered here: what the socket refuses is reported.
-/

namespace TaskLink

structure Responder where
  lifecycle : Lifecycle

namespace Responder

/-- A server with valid settings; it opens its socket on `shared` or on a context of its own. -/
def create (settings : ServerSettings) (shared : Option ContextId) :
    Except LinkError Responder :=
  match settings.validate with
  | .error error => .error error
  | .ok () =>
      .ok ⟨{ role := .responder, endpoint := settings.endpoint, options := settings.options,
             shared := shared }⟩

def kind : String := "zmq-rep"

variable {σ : Type} (fabric : Fabric σ)

/-! ## Requests -/

def receive (server : Responder) (timeout : Option Duration) (s : σ) :
    Except LinkError (Option ByteArray) × σ :=
  server.lifecycle.receiving (fabric.readWithin fabric.receiveJoined timeout) s

def receiveFrames (server : Responder) (timeout : Option Duration) (s : σ) :
    Except LinkError (Option (List ByteArray)) × σ :=
  server.lifecycle.receiving (fabric.readWithin fabric.receiveFrames timeout) s

def poll (server : Responder) (wait : Duration) (s : σ) : Except LinkError Bool × σ :=
  server.lifecycle.receiving (fun socket => fabric.pollReadable socket (.lasting wait)) s

/-! ## Answers -/

def send (server : Responder) (reply : ByteArray) (s : σ) : Except LinkError Unit × σ :=
  server.lifecycle.sending (fun socket => fabric.send socket reply false) s

def sendFrames (server : Responder) (frames : List ByteArray) (s : σ) :
    Except LinkError Unit × σ :=
  if frames.isEmpty then (.error (.invalidArguments "reply has no frames"), s)
  else server.lifecycle.sending (fun socket => fabric.sendFrames socket frames) s

end Responder

end TaskLink
