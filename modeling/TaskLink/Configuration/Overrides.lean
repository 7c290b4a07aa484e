import TaskLink.Configuration.Basic
import TaskLink.Environment

/-!
# Overrides of a configuration

Variables of the environment replace fields of the file, and command-line
flags replace both.  A value that does not fit its field is passed over.
-/

namespace TaskLink

namespace Configuration

/-! ## Single fields -/

def setHost (configuration : Configuration) (value : String) : Configuration :=
  { configuration with controller := { configuration.controller with host := value } }

def setHttpPort (configuration : Configuration) (value : String) : Configuration :=
  match readPort? value with
  | some port =>
      { configuration with controller := { configuration.controller with httpPort := port } }
  | none => configuration

def setCommandPort (configuration : Configuration) (value : String) : Configuration :=
  match readPort? value with
  | some port => { configuration with ports := { configuration.ports with commandPort := port } }
  | none => configuration

def setHeartbeatPort (configuration : Configuration) (value : String) : Configuration :=
  match readPort? value with
  | some port => { configuration with ports := { configuration.ports with heartbeatPort := port } }
  | none => configuration

def setCommandTimeout (configuration : Configuration) (value : String) : Configuration :=
  match Double.read? value with
  | some secs =>
      { configuration with timeouts := { configuration.timeouts with commandTimeoutSecs := secs } }
  | none => configuration

def setSlaveRequestId (configuration : Configuration) (value : String) : Configuration :=
  { configuration with session := { configuration.session with slaveRequestId := value } }

def setSceneKey (configuration : Configuration) (value : String) : Configuration :=
  { configuration with session := { configuration.session with sceneKey := value } }

def setTaskParameters (configuration : Configuration) (value : String) : Configuration :=
  { configuration with session := { configuration.session with taskParameters := value } }

def setLogLevel (configuration : Configuration) (value : String) : Configuration :=
  { configuration with logging := { configuration.logging with level := value } }

/-! ## Tiers -/

abbrev Override := String × (Configuration → String → Configuration)

def applyAll (overrides : List Override) (lookup : String → Option String)
    (configuration : Configuration) : Configuration :=
  overrides.foldl
    (fun configuration (name, set) =>
      match lookup name with
      | some value => set configuration value
      | none => configuration)
    configuration

def variableOverrides : List Override :=
  [("CTRLINK_HOST", setHost), ("CTRLINK_COMMAND_PORT", setCommandPort),
   ("CTRLINK_HEARTBEAT_PORT", setHeartbeatPort), ("CTRLINK_COMMAND_TIMEOUT", setCommandTimeout),
   ("CTRLINK_SLAVE_REQUEST_ID", setSlaveRequestId), ("CTRLINK_SCENE_PK", setSceneKey),
   ("CTRLINK_LOG_LEVEL", setLogLevel)]

def flagOverrides : List Override :=
  [("controller_hostname", setHost), ("controller_port", setHttpPort),
   ("zmq_port", setCommandPort), ("heartbeat_port", setHeartbeatPort),
   ("slave_request_id", setSlaveRequestId), ("task_scenepk", setSceneKey),
   ("taskparameters", setTaskParameters), ("controller_command_timeout", setCommandTimeout)]

def flagValue? (flags : List (String × String)) (name : String) : Option String :=
  match flags.find? fun flag => flag.1 == name with
  | some (_, value) => some value
  | none => none

def override (configuration : Configuration) (environment : Environment)
    (flags : List (String × String)) : Configuration :=
  applyAll flagOverrides (flagValue? flags)
    (applyAll variableOverrides environment.get? configuration)

end Configuration

end TaskLink
