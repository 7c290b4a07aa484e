import TaskLink.Messaging.FramedRequester
import TaskLink.Scenario.Stage

/-!
# Objects of a scenario

Clients, servers and sessions are values of their own; beacons and monitors
live on the stage and are known by their key.
-/

namespace TaskLink

/-- An object of a scenario; workers live on the stage and are known by their key. -/
inductive SceneObject where
  | context (id : ContextId)
  | requester (client : Requester Stage) (interrupt : Option Nat)
  | framed (client : FramedRequester)
  | subscriber (subscriber : Subscriber)
  | responder (server : Responder)
  | publisher (publisher : Broadcaster)
  | lifecycle (lifecycle : Lifecycle)
  | beacon (key : Nat)
  | monitor (key : Nat)
  | session (session : TaskSession Stage) (interrupt : Option Nat)

namespace SceneObject

/-! ## Views -/

def lifecycle? : SceneObject → Option (Lifecycle × (Lifecycle → SceneObject))
  | .requester client interrupt =>
      some (client.lifecycle, fun lifecycle =>
        .requester { client with lifecycle := lifecycle } interrupt)
  | .framed client => some (client.lifecycle, fun lifecycle => .framed ⟨lifecycle⟩)
  | .subscriber client => some (client.lifecycle, fun lifecycle => .subscriber ⟨lifecycle⟩)
  | .responder server => some (server.lifecycle, fun lifecycle => .responder ⟨lifecycle⟩)
  | .publisher server => some (server.lifecycle, fun lifecycle => .publisher ⟨lifecycle⟩)
  | .lifecycle held => some (held, .lifecycle)
  | _ => none

def kind? : SceneObject → Option String
  | .requester _ _ => some Requester.kind
  | .framed _ => some FramedRequester.kind
  | .subscriber _ => some Subscriber.kind
  | .responder _ => some Responder.kind
  | .publisher _ => some Broadcaster.kind
  | _ => none

def interrupt? : SceneObject → Option Nat
  | .requester _ interrupt | .session _ interrupt => interrupt
  | _ => none

def close (object : SceneObject) (stage : Stage) : Stage :=
  match object with
  | .beacon key =>
      match stage.beacons.get? key with
      | none => stage
      | some found =>
          let (_, stage) := stage.onNetwork (found.stop Network.fabric)
          { stage with beacons := stage.beacons.erase key }
  | .monitor key => stage.dropMonitor key
  | .session held _ => held.close Stage.fabric Stage.watchers stage
  | other =>
      match other.lifecycle? with
      | some (held, _) => (held.destroy Stage.fabric stage).2
      | none => stage

end SceneObject

end TaskLink
