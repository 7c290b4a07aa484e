import TaskLink.Json.Draft

/-!
# Heartbeats

A running task session publishes its status, its task state and one entry per
slave.  The identity of the session is read from the slave with the smallest
key; what a heartbeat does not say is the empty text.
-/

namespace TaskLink

namespace Heartbeat

def slavePrefix : String := "slaverequestid-"

def sceneScheme : String := "mujin:/"

def lostStatus : String := "lost"

/-! ## Identity -/

def afterStart? (start text : String) : Option String :=
  (start.toList.isPrefixOf? text.toList).map String.ofList

def slaves? (heartbeat : String) : Option (List (String × Json)) :=
  match Json.read? heartbeat with
  | some tree =>
      match tree.member? "slavestates" with
      | some (.object slaves) => some slaves
      | _ => none
  | none => none

def firstSlave? (heartbeat : String) : Option (String × Json) :=
  (slaves? heartbeat).bind List.head?

def requestIdOfKey (key : String) : String :=
  (afterStart? slavePrefix key).getD ""

def sceneOfState (state : Json) : String :=
  let address := ((state.member? "currentsceneuri").bind JsonTree.text?).getD ""
  (afterStart? sceneScheme address).getD address

def slaveRequestId (heartbeat : String) : String :=
  match firstSlave? heartbeat with
  | some (key, _) => requestIdOfKey key
  | none => ""

def sceneKey (heartbeat : String) : String :=
  match firstSlave? heartbeat with
  | some (_, state) => sceneOfState state
  | none => ""

end Heartbeat

/-! ## Liveness -/

/-- The fields of a heartbeat that tell whether its session runs. -/
structure HeartbeatStatus where
  status : String
  taskState : Json

namespace HeartbeatStatus

/-- The status from the draft of a heartbeat; either field may be left out. -/
def ofDraft? (draft : JsonDraft) : Option HeartbeatStatus :=
  match draft.fields? ["status", "taskstate"] with
  | some [status, taskState] =>
      let status := match status with
        | some draft => draft.text?
        | none => some ""
      let taskState := match taskState with
        | some draft => draft.value? (jsonDepthLimit - 1)
        | none => some .null
      match status, taskState with
      | some status, some taskState => some ⟨status, taskState⟩
      | _, _ => none
  | _ => none

def read? (heartbeat : String) : Option HeartbeatStatus :=
  match JsonDraft.read heartbeat with
  | .ok draft => ofDraft? draft
  | .error _ => none

/-- Whether the session says that it runs: any status of two characters or more but `lost`. -/
def isAlive (report : HeartbeatStatus) : Bool :=
  1 < report.status.length && report.status != Heartbeat.lostStatus

end HeartbeatStatus

def Heartbeat.isAlive (heartbeat : String) : Bool :=
  match HeartbeatStatus.read? heartbeat with
  | some report => report.isAlive
  | none => false

end TaskLink
