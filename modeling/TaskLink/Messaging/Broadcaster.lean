import TaskLink.Messaging.Lifecycle

/-!
# Publisher

A publisher sends to everyone who is connected and never waits for anyone.
-/

namespace TaskLink

structure Broadcaster where
  lifecycle : Lifecycle

namespace Broadcaster

/-- A publisher with valid settings; it opens its socket on `shared` or on its own context. -/
def create (settings : ServerSettings) (shared : Option ContextId) :
    Except LinkError Broadcaster :=
  match settings.validate with
  | .error error => .error error
  | .ok () =>
      .ok ⟨{ role := .publisher, endpoint := settings.endpoint, options := settings.options,
             shared := shared }⟩

def kind : String := "zmq-pub"

variable {σ : Type} (fabric : Fabric σ)

def publish (publisher : Broadcaster) (message : ByteArray) (s : σ) :
    Except LinkError Bool × σ :=
  publisher.lifecycle.sending
    (fun socket s =>
      match fabric.send socket message false s with
      | (.ok (), s) => (.ok true, s)
      | (.error .wouldBlock, s) => (.ok false, s)
      | (.error fault, s) => (.error fault, s)) s

end Broadcaster

end TaskLink
