import TaskLink.Scenario.Object
import TaskLink.Scenario.Step

/-!
# Actions on objects

What each kind of object makes of an action.  Every object with a socket also
takes the actions on its lifecycle.
-/

namespace TaskLink

/-- What an action comes to: its answer, the object and the stage afterwards. -/
abbrev Played (α : Type) := Answer × α × Stage

/-! ## Sockets -/

def shownEndpoint (lifecycle : Lifecycle) : String :=
  if lifecycle.role.binds then s!":{lifecycle.endpoint.port.toNat}"
  else lifecycle.endpoint.text

def playLifecycle (action : Action) (context : Option ContextId) (lifecycle : Lifecycle)
    (stage : Stage) : Option (Played Lifecycle) :=
  let opened : Except LinkError SocketId × Lifecycle × Stage → Option (Played Lifecycle)
    | (result, lifecycle, stage) =>
        some (.ofLink (fun _ => .nothing) result, lifecycle, stage)
  match action with
  | .start => opened (lifecycle.start Stage.fabric stage)
  | .establish => opened (lifecycle.establish Stage.fabric context stage)
  | .renew => opened (lifecycle.renew Stage.fabric stage)
  | .stop | .destroy => some (.done, lifecycle.destroy Stage.fabric stage)
  | .isRunning => some (.flag lifecycle.isLive, lifecycle, stage)
  | .endpoint => some (.text (shownEndpoint lifecycle), lifecycle, stage)
  | .journal => some (.journal lifecycle.journal, lifecycle, stage)
  | .state => some (.lifecycle lifecycle, lifecycle, stage)
  | _ => none

/-! ## Clients -/

/-- Polls after which a wait is taken to have no end. -/
def pollLimit : Nat := 100000

def settled {α β : Type} (describe : α → Answer) (before : β) (stage : Stage) :
    Option (α × β × Stage) → Played β
  | some (result, after, stage) => (describe result, after, stage)
  | none => (.unsettled, before, stage)

def playRequester (action : Action) (client : Requester Stage) (stage : Stage) :
    Option (Played (Requester Stage)) :=
  let asText (call : Call) := settled (.ofLink .text) client stage
    (client.call Stage.fabric pollLimit call stage)
  let asBytes (call : Call) := settled (.ofLink .bytes) client stage
    (client.callBytes Stage.fabric pollLimit call stage)
  match action with
  | .call call => some (asText call)
  | .callDefault message => some (asText (client.defaultCall message))
  | .callBytes call => some (asBytes call)
  | .request message => some (asBytes (client.defaultCall message))
  | _ => none

def playFramed (action : Action) (client : FramedRequester) (stage : Stage) :
    Option (Played FramedRequester) :=
  match action with
  | .exchange frames timeout =>
      some (settled (.ofLink .frames) client stage
        (client.exchange Stage.fabric pollLimit frames timeout stage))
  | _ => none

def playSubscriber (action : Action) (subscriber : Subscriber) (stage : Stage) :
    Option (Answer × Stage) :=
  let received : Except LinkError (Option ByteArray) × Stage → Option (Answer × Stage)
    | (result, stage) => some (.ofLink (.orNothing .bytes) result, stage)
  match action with
  | .receive timeout => received (subscriber.receive Stage.fabric timeout stage)
  | .receiveLatest timeout => received (subscriber.receiveLatest Stage.fabric timeout stage)
  | _ => none

def playResponder (action : Action) (server : Responder) (stage : Stage) :
    Option (Answer × Stage) :=
  match action with
  | .receive timeout =>
      let (result, stage) := server.receive Stage.fabric timeout stage
      some (.ofLink (.orNothing .bytes) result, stage)
  | .receiveFrames timeout =>
      let (result, stage) := server.receiveFrames Stage.fabric timeout stage
      some (.ofLink (.orNothing .frames) result, stage)
  | .poll wait =>
      let (result, stage) := server.poll Stage.fabric wait stage
      some (.ofLink .flag result, stage)
  | .send reply =>
      let (result, stage) := server.send Stage.fabric reply stage
      some (.ofLink (fun _ => .nothing) result, stage)
  | .sendFrames frames =>
      let (result, stage) := server.sendFrames Stage.fabric frames stage
      some (.ofLink (fun _ => .nothing) result, stage)
  | _ => none

def playPublisher (action : Action) (publisher : Broadcaster) (stage : Stage) :
    Option (Answer × Stage) :=
  match action with
  | .publish message =>
      let (result, stage) := publisher.publish Stage.fabric message stage
      some (.ofLink .flag result, stage)
  | _ => none

/-! ## Sessions -/

def playSession (action : Action) (session : TaskSession Stage) (stage : Stage) :
    Option (Played (TaskSession Stage)) :=
  let execute (parameters : Json) (timeout : Option Duration) :=
    settled (.ofSession .json) session stage
      (session.execute Stage.fabric Stage.watchers pollLimit parameters timeout stage)
  let finished : Except SessionError Unit × TaskSession Stage × Stage →
      Option (Played (TaskSession Stage))
    | (result, session, stage) =>
        some (.ofSession (fun _ => .nothing) result, session, stage)
  match action with
  | .execute parameters timeout => some (execute parameters timeout)
  | .executeDefault parameters => some (execute parameters session.options.commandTimeout)
  | .executeRaw command timeout bits =>
      some (settled (.ofSession .text) session stage
        (session.executeRaw Stage.fabric Stage.watchers pollLimit command timeout bits stage))
  | .envelope parameters => some (.json (session.commandEnvelope parameters), session, stage)
  | .identity => some (.identity session.identity, session, stage)
  | .options => some (.options session.options, session, stage)
  | .endpoint => some (.text session.endpoint.text, session, stage)
  | .renew => finished (session.renew Stage.fabric stage)
  | .startMonitor => finished (session.startMonitor Stage.watchers stage)
  | .stopMonitor => some (.done, session.stopMonitor Stage.watchers stage)
  | .latest => some (.orNothing .text (session.latestHeartbeat Stage.watchers stage), session, stage)
  | _ => none

/-! ## Workers -/

/-- Longest time that a step waits for something to happen. -/
def longestAwait : Nat := 5 * nanosPerSec

def playBeacon (action : Action) (key : Nat) (beacon : Beacon) (stage : Stage) :
    Option (Answer × Stage) :=
  let keep (beacon : Beacon) (stage : Stage) :=
    { stage with beacons := stage.beacons.put key beacon }
  match action with
  | .start =>
      match beacon.start Network.fabric (.ok ()) stage.network with
      | (result, beacon, network) =>
          some (.ofSession (fun _ => .nothing) result,
            keep beacon { stage with network := network })
  | .stop =>
      let (beacon, stage) := stage.onNetwork (beacon.stop Network.fabric)
      some (.done, keep beacon stage)
  | .setPayload payload => some (.done, keep (beacon.setPayload payload) stage)
  | .isRunning => some (.flag beacon.isRunning, stage)
  | .isPublishing => some (.flag (0 < beacon.published), stage)
  | .awaitPublishing =>
      let hasPublished (stage : Stage) :=
        (stage.beacons.get? key).any fun beacon => 0 < beacon.published
      let stage := stage.wait hasPublished longestAwait
      some (if hasPublished stage then .flag true else .nothing, stage)
  | _ => none

/-- Whether the newest heartbeat is the expected one, or any if none is expected. -/
def isExpected (expected : Option String) (latest : Option String) : Bool :=
  match expected with
  | some heartbeat => latest == some heartbeat
  | none => latest.isSome

def playMonitor (action : Action) (key : Nat) (monitor : HeartbeatMonitor) (stage : Stage) :
    Option (Answer × Stage) :=
  match action with
  | .stop => some (.done, stage.stopMonitor key)
  | .isRunning => some (.flag monitor.running, stage)
  | .endpoint => some (.text monitor.subscriber.lifecycle.endpoint.text, stage)
  | .latest => some (.orNothing .text (stage.latest key), stage)
  | .takeRequest =>
      let (requested, stage) := stage.takeRequest key
      some (.flag requested, stage)
  | .awaitRequest =>
      let isRequested (stage : Stage) :=
        (stage.monitors.get? key).any fun monitor => monitor.vigil.requested
      let (requested, stage) := (stage.wait isRequested longestAwait).takeRequest key
      some (if requested then .flag true else .nothing, stage)
  | _ => none

/-- Wait for the newest heartbeat that a monitor or the monitor of a session sees. -/
def awaitLatest (expected : Option String) (latest : Stage → Option String) (stage : Stage) :
    Answer × Stage :=
  let stage := stage.wait (fun stage => isExpected expected (latest stage)) longestAwait
  (.orNothing .text (latest stage), stage)

/-! ## Any object -/

def playKind (action : Action) (object : SceneObject) (stage : Stage) :
    Option (Played SceneObject) :=
  let unchanged : Option (Answer × Stage) → Option (Played SceneObject) :=
    Option.map fun (answer, stage) => (answer, object, stage)
  match object with
  | .requester client interrupt =>
      (playRequester action client stage).map fun (answer, client, stage) =>
        (answer, .requester client interrupt, stage)
  | .framed client =>
      (playFramed action client stage).map fun (answer, client, stage) =>
        (answer, .framed client, stage)
  | .session session interrupt =>
      (playSession action session stage).map fun (answer, session, stage) =>
        (answer, .session session interrupt, stage)
  | .subscriber subscriber => unchanged (playSubscriber action subscriber stage)
  | .responder server => unchanged (playResponder action server stage)
  | .publisher publisher => unchanged (playPublisher action publisher stage)
  | .beacon key =>
      unchanged ((stage.beacons.get? key).bind (playBeacon action key · stage))
  | .monitor key =>
      unchanged ((stage.monitors.get? key).bind (playMonitor action key · stage))
  | .context _ | .lifecycle _ => none

def playObject (action : Action) (context : Option ContextId) (object : SceneObject)
    (stage : Stage) : Played SceneObject :=
  match playKind action object stage with
  | some played => played
  | none =>
      match action, object.kind?, object.lifecycle? with
      | .kind, some kind, _ => (.text kind, object, stage)
      | _, _, some (lifecycle, rebuild) =>
          match playLifecycle action context lifecycle stage with
          | some (answer, lifecycle, stage) => (answer, rebuild lifecycle, stage)
          | none => (.unsupported, object, stage)
      | _, _, none => (.unsupported, object, stage)

def latestOf (object : SceneObject) (stage : Stage) : Option String :=
  match object with
  | .monitor key => stage.latest key
  | .session session _ => session.latestHeartbeat Stage.watchers stage
  | _ => none

end TaskLink
