import TaskLink.Messaging.Broadcaster
import TaskLink.Session.Error

/-!
# Heartbeat beacon

A beacon plays the remote side of a session: it repeats a payload at an
interval.  Its owner starts and stops it and replaces the payload; a worker
that holds the socket repeats ticks as long as the beacon is to run, and gives
up the socket when it is not.
-/

namespace TaskLink

def defaultBeaconPayload : ByteArray := ⟨#[0xff]⟩

structure BeaconWorker where
  publisher : Broadcaster
  inHand : Option ByteArray := none

structure Beacon where
  port : UInt16
  interval : Duration
  payload : ByteArray := defaultBeaconPayload
  options : SocketOptions := {}
  context : Option ContextId := none
  /-- Whether the worker is to go on. -/
  running : Bool := false
  worker : Option BeaconWorker := none
  published : UInt64 := 0

namespace Beacon

def isRunning (beacon : Beacon) : Bool :=
  beacon.running

/-- Replace the payload; a tick that is under way keeps its message. -/
def setPayload (beacon : Beacon) (payload : ByteArray) : Beacon :=
  { beacon with payload := payload }

def halt (beacon : Beacon) : Beacon :=
  { beacon with running := false }

variable {σ : Type} (fabric : Fabric σ)

/-- Bind the port and hand it to a worker, if a thread for one can be spawned. -/
def start (beacon : Beacon) (spawned : Except String Unit) (s : σ) :
    Except SessionError Unit × Beacon × σ :=
  if beacon.isRunning then
    (.error (.invalidState "Heartbeat publisher already running"), beacon, s)
  else
    match Broadcaster.create (.ofPort beacon.port beacon.options) none with
    | .error error => (.error (.link error), beacon, s)
    | .ok publisher =>
        match publisher.lifecycle.establish fabric beacon.context s with
        | (.error error, _, s) => (.error (.link error), beacon, s)
        | (.ok _, lifecycle, s) =>
            match spawned with
            | .ok () =>
                (.ok (), { beacon with running := true, worker := some ⟨⟨lifecycle⟩, none⟩ }, s)
            | .error reason =>
                -- the publisher was given to the thread that there is not, and goes with it
                match lifecycle.destroy fabric s with
                | (_, s) =>
                    (.error (.worker s!"heartbeat publisher: {reason}"),
                      { beacon with running := false }, s)

/-! ## The worker -/

/-- Take the payload in hand, or give up the socket if the beacon is not to run any more. -/
def beginTick (beacon : Beacon) (s : σ) : Beacon × σ :=
  match beacon.worker with
  | some ⟨publisher, none⟩ =>
      if beacon.running then
        ({ beacon with worker := some ⟨publisher, some beacon.payload⟩ }, s)
      else
        match publisher.lifecycle.destroy fabric s with
        | (_, s) => ({ beacon with worker := none }, s)
  | _ => (beacon, s)

def endTick (beacon : Beacon) (s : σ) : Beacon × σ :=
  match beacon.worker with
  | some ⟨publisher, some message⟩ =>
      let beacon := { beacon with worker := some ⟨publisher, none⟩ }
      match publisher.publish fabric message s with
      | (.ok true, s) => ({ beacon with published := beacon.published + 1 }, s)
      | (_, s) => (beacon, s)
  | _ => (beacon, s)

def emit (beacon : Beacon) (s : σ) : Beacon × σ :=
  match beacon.beginTick fabric s with
  | (beacon, s) => beacon.endTick fabric s

/-- Stop publishing, and wait until the worker has ended its tick and given up the socket. -/
def stop (beacon : Beacon) (s : σ) : Beacon × σ :=
  match beacon.halt.endTick fabric s with
  | (beacon, s) => beacon.beginTick fabric s

end Beacon

end TaskLink
