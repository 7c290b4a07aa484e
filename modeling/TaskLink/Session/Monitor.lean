import TaskLink.Messaging.Subscriber
import TaskLink.Session.Heartbeat
import TaskLink.Session.Error
import TaskLink.Text.Utf8

/-!
# Heartbeat monitor

A monitor keeps the newest live heartbeat of a session, and asks for the
command client to be replaced when the heartbeat was silent for too long.
-/

namespace TaskLink

/-! ## What is watched -/

/-- What a monitor has found out; the clock tells when the session last was alive. -/
structure Vigil where
  lastAlive : Nat
  latest : Option String := none
  requested : Bool := false
  deriving DecidableEq

namespace Vigil

def hear (vigil : Vigil) (message : ByteArray) (now : Nat) : Vigil :=
  let heartbeat := decodeLenient message
  if Heartbeat.isAlive heartbeat then
    { vigil with latest := some heartbeat, lastAlive := now }
  else vigil

/-- Whether more than the limit has passed without a live heartbeat; no limit is never passed. -/
def isOverdue (vigil : Vigil) (limit : Option Duration) (now : Nat) : Bool :=
  match limit with
  | some limit => limit.nanos < now - vigil.lastAlive
  | none => false

def raise (vigil : Vigil) (now : Nat) : Vigil :=
  { vigil with requested := true, lastAlive := now }

/-- Whether a replacement was asked for; asking this takes the request. -/
def takeRequest (vigil : Vigil) : Bool × Vigil :=
  (vigil.requested, { vigil with requested := false })

end Vigil

/-! ## The monitor -/

def monitorSlice : Duration := .ofMillis 50

structure HeartbeatMonitor where
  subscriber : Subscriber
  limit : Option Duration
  vigil : Vigil
  running : Bool := true

namespace HeartbeatMonitor

variable {σ : Type} (fabric : Fabric σ)

/-- Subscribe to an endpoint on a context, and begin to watch if a thread can be spawned for it. -/
def start (spawned : Except String Unit) (context : ContextId) (endpoint : Endpoint)
    (options : SocketOptions) (limit : Option Duration) (s : σ) :
    Except SessionError HeartbeatMonitor × σ :=
  match Subscriber.create { endpoint := endpoint, options := options } (some context) with
  | .error error => (.error (.link error), s)
  | .ok subscriber =>
      match subscriber.lifecycle.start fabric s with
      | (.error error, _, s) => (.error (.link error), s)
      | (.ok _, lifecycle, s) =>
          match spawned with
          | .ok () =>
              (.ok {
                subscriber := ⟨lifecycle⟩
                limit := limit
                vigil := { lastAlive := fabric.clock s } }, s)
          | .error reason =>
              match lifecycle.destroy fabric s with
              | (_, s) => (.error (.worker s!"heartbeat monitor: {reason}"), s)

def listen (monitor : HeartbeatMonitor) (s : σ) : HeartbeatMonitor × σ :=
  match monitor.subscriber.receiveLatest fabric (some monitorSlice) s with
  | (.ok (some message), s) =>
      ({ monitor with vigil := monitor.vigil.hear message (fabric.clock s) }, s)
  | (.ok none, s) => (monitor, s)
  | (.error _, s) => (monitor, fabric.sleep monitorSlice s)

/-- Replace the subscriber if the heartbeat is overdue, and ask for a new command client. -/
def judge (monitor : HeartbeatMonitor) (s : σ) : HeartbeatMonitor × σ :=
  if monitor.vigil.isOverdue monitor.limit (fabric.clock s) then
    match monitor.subscriber.lifecycle.renew fabric s with
    | (_, lifecycle, s) =>
        ({ monitor with
            subscriber := ⟨lifecycle⟩, vigil := monitor.vigil.raise (fabric.clock s) }, s)
  else (monitor, s)

def watch (monitor : HeartbeatMonitor) (s : σ) : HeartbeatMonitor × σ :=
  if monitor.running then
    match monitor.listen fabric s with
    | (monitor, s) => monitor.judge fabric s
  else (monitor, s)

def stop (monitor : HeartbeatMonitor) (s : σ) : HeartbeatMonitor × σ :=
  match monitor.subscriber.lifecycle.destroy fabric s with
  | (lifecycle, s) => ({ monitor with subscriber := ⟨lifecycle⟩, running := false }, s)

end HeartbeatMonitor

end TaskLink
