import TaskLink.Messaging.Lifecycle

/-!
# Subscriber

A subscriber receives everything that the publisher at its endpoint sends.
Where only the freshest message matters, the older ones are skipped.
-/

namespace TaskLink

/-- A client that receives published messages. -/
structure Subscriber where
  lifecycle : Lifecycle

namespace Subscriber

/-- A subscriber with valid settings; it opens its socket on `shared` or on its own context. -/
def create (settings : ClientSettings) (shared : Option ContextId) :
    Except LinkError Subscriber :=
  match settings.validate with
  | .error error => .error error
  | .ok () =>
      .ok ⟨{ role := .subscriber, endpoint := settings.endpoint, options := settings.options,
             shared := shared }⟩

def kind : String := "zmq-sub"

variable {σ : Type} (fabric : Fabric σ)

def receive (subscriber : Subscriber) (timeout : Option Duration) (s : σ) :
    Except LinkError (Option ByteArray) × σ :=
  subscriber.lifecycle.receiving (fabric.readWithin fabric.receiveJoined timeout) s

/-- Read on without waiting until nothing is there, and keep what was read last. -/
def drain (subscriber : Subscriber) :
    Nat → ByteArray → σ → Except LinkError (Option ByteArray) × σ
  | 0, latest, s => (.ok (some latest), s)
  | count + 1, latest, s =>
      match subscriber.receive fabric none s with
      | (.error error, s) => (.error error, s)
      | (.ok none, s) => (.ok (some latest), s)
      | (.ok (some newer), s) => drain subscriber count newer s

def backlog (subscriber : Subscriber) (s : σ) : Nat :=
  match subscriber.lifecycle.socket with
  | some socket => fabric.backlog socket s
  | none => 0

/-- The newest message after waiting for one within the timeout; the older ones are skipped. -/
def receiveLatest (subscriber : Subscriber) (timeout : Option Duration) (s : σ) :
    Except LinkError (Option ByteArray) × σ :=
  match subscriber.receive fabric timeout s with
  | (.error error, s) => (.error error, s)
  | (.ok none, s) => (.ok none, s)
  | (.ok (some latest), s) =>
      subscriber.drain fabric (subscriber.backlog fabric s + 1) latest s

end Subscriber

end TaskLink
