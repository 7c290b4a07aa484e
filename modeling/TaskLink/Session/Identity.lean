import TaskLink.Json.Printer
import TaskLink.Session.Discovery
import TaskLink.Session.Heartbeat

/-!
# Session identity

Which running task session to talk to.  The caller may supply both parts; what
is missing is taken from the first heartbeat that discovery finds.
-/

namespace TaskLink

structure SessionIdentity where
  sceneKey : String
  slaveRequestId : String
  deriving DecidableEq

namespace SessionIdentity

def isComplete (identity : SessionIdentity) : Bool :=
  !identity.sceneKey.isEmpty && !identity.slaveRequestId.isEmpty

def fill (identity : SessionIdentity) (heartbeat : String) : SessionIdentity where
  sceneKey :=
    if identity.sceneKey.isEmpty then Heartbeat.sceneKey heartbeat else identity.sceneKey
  slaveRequestId :=
    if identity.slaveRequestId.isEmpty then Heartbeat.slaveRequestId heartbeat
    else identity.slaveRequestId

def missing (identity : SessionIdentity) : String :=
  " and ".intercalate
    ((if identity.sceneKey.isEmpty then ["scene primary key"] else []) ++
     (if identity.slaveRequestId.isEmpty then ["slave request id"] else []))

def toJson (identity : SessionIdentity) : Json :=
  .object
    [("scene_pk", .text identity.sceneKey), ("slave_request_id", .text identity.slaveRequestId)]

variable {σ τ : Type}

/-- The identity filled from a heartbeat, refused if a part stays unknown. -/
def completeFrom (supplied : SessionIdentity) (endpoint heartbeat : String) :
    Except SessionError SessionIdentity :=
  let identity := supplied.fill heartbeat
  if identity.isComplete then .ok identity
  else .error (.incompleteIdentity endpoint identity.missing)

/-- The supplied identity, completed from a source that is opened only if needed. -/
def resolve (supplied : SessionIdentity) (policy : DiscoveryPolicy)
    (source : HeartbeatSource σ τ) (surroundings : σ) :
    Except SessionError SessionIdentity × σ :=
  if supplied.isComplete then (.ok supplied, surroundings)
  else
    match source.openSource surroundings with
    | .error (error, surroundings) => (.error error, surroundings)
    | .ok opened =>
        match source.discover policy opened with
        | (.error error, opened) => (.error error, source.closeSource opened)
        | (.ok heartbeat, opened) =>
            (supplied.completeFrom source.endpoint heartbeat, source.closeSource opened)

end SessionIdentity

end TaskLink
