import TaskLink.Scenario.Helper
import TaskLink.Scenario.Roster
import TaskLink.Session.Beacon
import TaskLink.Session.Monitor

/-!
# Stage

The surroundings of a scenario: a network, and everyone who acts on it while
a client waits.  Beacons publish, monitors watch, a helper serves, a context
may be terminated.  Nobody acts except while time passes.
-/

namespace TaskLink

/-! ## Interrupts -/

inductive Interrupt where
  | flags (flags : PreemptFlags)
  | after (count asked : Nat)
  | exactly (bits : UInt32)

namespace Interrupt

def ask (bits : UInt32) : Interrupt → Bool × Interrupt
  | .flags raised => (raised.isPreempted bits, .flags raised)
  | .after count asked => (count ≤ asked + 1, .after count (asked + 1))
  | .exactly expected => (bits == expected, .exactly expected)

end Interrupt

/-! ## The stage -/

/-- A network, and those who act on it beside the one whose turn it is. -/
structure Stage where
  network : Network := {}
  beacons : Roster Nat Beacon := {}
  monitors : Roster Nat HeartbeatMonitor := {}
  interrupts : Roster Nat Interrupt := {}
  helper : Option Helper := none
  ending : Option ContextId := none
  nextKey : Nat := 0

namespace Stage

def freshKey (stage : Stage) : Nat × Stage :=
  (stage.nextKey, { stage with nextKey := stage.nextKey + 1 })

def onNetwork {α : Type} (operation : Network → α × Network) (stage : Stage) : α × Stage :=
  match operation stage.network with
  | (value, network) => (value, { stage with network := network })

def ask (key : Nat) : Preempt Stage := fun bits stage =>
  match stage.interrupts.get? key with
  | none => (false, stage)
  | some interrupt =>
      match interrupt.ask bits with
      | (answer, interrupt) =>
          (answer, { stage with interrupts := stage.interrupts.put key interrupt })

/-! ## Rounds -/

/-- Time in which every beacon and every monitor acts once. -/
def roundNanos : Nat := 50 * nanosPerMilli

def isBusy (stage : Stage) : Bool :=
  !stage.beacons.entries.isEmpty || !stage.monitors.entries.isEmpty

/-- Everyone acts once, from the same moment, in a stretch of time. -/
def round (span : Nat) (stage : Stage) : Stage :=
  let start := stage.network.clock
  let (beacons, network) := stage.beacons.passThrough (Beacon.emit Network.fabric) stage.network
  let watch (monitor : HeartbeatMonitor) (network : Network) :=
    monitor.watch Network.fabric { network with clock := start }
  let (monitors, network) := stage.monitors.passThrough watch network
  { stage with
    beacons := beacons
    monitors := monitors
    network := { network with clock := start + span } }

def passUntil (met : Stage → Bool) : Nat → Nat → Stage → Stage
  | 0, nanos, stage => { stage with network := stage.network.elapse nanos }
  | rounds + 1, nanos, stage =>
      if met stage then stage
      else
        let span := Nat.min nanos roundNanos
        passUntil met rounds (nanos - span) (stage.round span)

def wait (met : Stage → Bool) (nanos : Nat) (stage : Stage) : Stage :=
  if stage.isBusy then passUntil met (nanos / roundNanos + 1) nanos stage
  else if met stage then stage
  else { stage with network := stage.network.elapse nanos }

def pause (span : Duration) (stage : Stage) : Stage :=
  stage.wait (fun _ => false) span.nanos

/-! ## Interludes -/

def conclude (stage : Stage) : Stage :=
  match stage.ending with
  | some context =>
      { stage with network := stage.network.terminate context, ending := none }
  | none => stage

def serve (stage : Stage) : Stage :=
  match stage.helper with
  | some helper =>
      let (helper, network) := helper.servePrompt helper.replies stage.network
      { stage with helper := some helper, network := network }
  | none => stage

/-- Longest time that a wait without an end is followed. -/
def longestVigil : Nat := 60 * nanosPerSec

def waitNanos : Wait → Nat
  | .forever => longestVigil
  | .millis count => count * nanosPerMilli

def isSettled (socket : SocketId) (readiness : Readiness) (stage : Stage) : Bool :=
  match stage.network.isReady socket readiness with
  | .ok ready => ready
  | .error _ => true

def poll (socket : SocketId) (readiness : Readiness) (wait : Wait) (stage : Stage) :
    Except SocketFault Bool × Stage :=
  let stage :=
    if stage.isSettled socket readiness then stage
    else if wait = .millis 0 then stage.conclude.serve
    else stage.conclude.serve.wait (isSettled socket readiness) (waitNanos wait)
  stage.onNetwork (Network.poll socket readiness (.millis 0))

def fabric : Fabric Stage where
  newContext := onNetwork Network.newContext
  openSocket context role endpoint options :=
    onNetwork (Network.openSocket context role endpoint options)
  closeSocket socket stage := { stage with network := stage.network.closeSocket socket }
  send socket frame more := onNetwork (Network.send socket frame more)
  receive socket := onNetwork (Network.receive socket)
  poll := poll
  backlog socket stage := stage.network.backlog socket
  clock stage := stage.network.clock
  sleep span stage := stage.pause span

/-! ## Workers -/

def startMonitor (context : ContextId) (endpoint : Endpoint) (options : SocketOptions)
    (limit : Option Duration) (stage : Stage) : Except SessionError Nat × Stage :=
  let start := HeartbeatMonitor.start Network.fabric (.ok ()) context endpoint options limit
  match stage.onNetwork start with
  | (.error error, stage) => (.error error, stage)
  | (.ok monitor, stage) =>
      let (key, stage) := stage.freshKey
      (.ok key, { stage with monitors := stage.monitors.put key monitor })

def stopMonitor (key : Nat) (stage : Stage) : Stage :=
  match stage.monitors.get? key with
  | none => stage
  | some monitor =>
      let (monitor, stage) := stage.onNetwork (monitor.stop Network.fabric)
      { stage with monitors := stage.monitors.put key monitor }

def dropMonitor (key : Nat) (stage : Stage) : Stage :=
  let stage := stage.stopMonitor key
  { stage with monitors := stage.monitors.erase key }

def takeRequest (key : Nat) (stage : Stage) : Bool × Stage :=
  match stage.monitors.get? key with
  | none => (false, stage)
  | some monitor =>
      let (requested, vigil) := monitor.vigil.takeRequest
      (requested, { stage with monitors := stage.monitors.put key { monitor with vigil := vigil } })

def latest (key : Nat) (stage : Stage) : Option String :=
  (stage.monitors.get? key).bind (·.vigil.latest)

def watchers : Watchers Stage where
  start context endpoint options limit stage :=
    match stage.startMonitor context endpoint options limit with
    | (started, stage) => (started.map WatcherId.mk, stage)
  stop watcher := dropMonitor watcher.number
  takeRequest watcher := takeRequest watcher.number
  latest watcher := latest watcher.number

end Stage

end TaskLink
