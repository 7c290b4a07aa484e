import TaskLink.Scenario.Stage
import TaskLink.Tool.Run

/-!
# Rehearsals

A run of the tool against a controller on the same stage: a reply server that
answers from a list and then keeps silent, and perhaps a beacon.
-/

namespace TaskLink

structure Controller where
  commandPort : UInt16
  heartbeatPort : UInt16
  heartbeat : Option ByteArray
  replies : List ByteArray

namespace Controller

def withBeacon (controller : Controller) (stage : Stage) : Stage :=
  match controller.heartbeat with
  | none => stage
  | some payload =>
      let beacon : Beacon :=
        { port := controller.heartbeatPort, interval := .ofMillis 10, payload := payload }
      match beacon.start Network.fabric (.ok ()) stage.network with
      | (_, beacon, network) =>
          let (key, stage) := stage.freshKey
          { stage with beacons := stage.beacons.put key beacon, network := network }

def server (controller : Controller) (network : Network) : Responder × Network :=
  let lifecycle : Lifecycle :=
    { role := .responder, endpoint := .any controller.commandPort }
  match lifecycle.start Network.fabric network with
  | (_, lifecycle, network) => (⟨lifecycle⟩, network)

def stage (controller : Controller) : Stage :=
  let (server, network) := controller.server {}
  let helper : Helper :=
    { server := server, keepsFrames := false, replies := controller.replies.map .whole }
  controller.withBeacon { network := network, helper := some helper }

def request? : Answer → Option ByteArray
  | .success (.bytes request) => some request
  | _ => none

def requests (stage : Stage) : List ByteArray :=
  match stage.serve.helper with
  | none => []
  | some helper =>
      let answered := helper.answers.filterMap request?
      match (helper.server.receive Network.fabric none stage.serve.network).1 with
      | .ok (some request) => answered ++ [request]
      | _ => answered

end Controller

def rehearsalLimit : Nat := 100000

def rehearse (controller : Controller) (arguments : List String) (around : ToolSurroundings) :
    Option (ToolOutcome × List ByteArray) :=
  (runTool Stage.fabric Stage.watchers rehearsalLimit arguments around controller.stage).map
    fun (outcome, stage) => (outcome, Controller.requests stage)

end TaskLink
