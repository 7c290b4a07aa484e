import TaskLink.Configuration.Search

/-!
# Tiers of a configuration

A field takes the value of its flag, else that of its variable, else that of
the file; a value that cannot be read for the field counts as none.  The file
is the one that is asked for, else the one that a variable names, else the
nearest one, else there is none and the defaults stand for it.  A file that is
asked for is never replaced, nor is one that the variable names, unless its
value is not text: then it counts as unset.
-/

namespace TaskLink

namespace Configuration

/-! ## One field -/

/-- What the highest of three tiers gives that can be read: a flag, a variable, the file. -/
def topmost {α : Type} (read : String → Option α) (flag? inherited? : Option String)
    (base : α) : α :=
  ((flag?.bind read).or (inherited?.bind read)).getD base

def placed (set : Configuration → String → Configuration) (value? : Option String)
    (configuration : Configuration) : Configuration :=
  match value? with
  | some value => set configuration value
  | none => configuration

section Placing

variable (value? : Option String) (configuration : Configuration)

@[simp]
theorem placed_setHost : placed setHost value? configuration =
    { configuration with controller :=
      { configuration.controller with host := value?.getD configuration.controller.host } } := by
  cases value? <;> rfl

@[simp]
theorem placed_setHttpPort : placed setHttpPort value? configuration =
    { configuration with controller := { configuration.controller with
      httpPort := (value?.bind readPort?).getD configuration.controller.httpPort } } := by
  cases value? with
  | none => rfl
  | some value => cases isRead : readPort? value <;> simp [placed, setHttpPort, isRead]

@[simp]
theorem placed_setCommandPort : placed setCommandPort value? configuration =
    { configuration with ports := { configuration.ports with
      commandPort := (value?.bind readPort?).getD configuration.ports.commandPort } } := by
  cases value? with
  | none => rfl
  | some value => cases isRead : readPort? value <;> simp [placed, setCommandPort, isRead]

@[simp]
theorem placed_setHeartbeatPort : placed setHeartbeatPort value? configuration =
    { configuration with ports := { configuration.ports with
      heartbeatPort := (value?.bind readPort?).getD configuration.ports.heartbeatPort } } := by
  cases value? with
  | none => rfl
  | some value => cases isRead : readPort? value <;> simp [placed, setHeartbeatPort, isRead]

@[simp]
theorem placed_setCommandTimeout : placed setCommandTimeout value? configuration =
    { configuration with timeouts := { configuration.timeouts with
      commandTimeoutSecs :=
        (value?.bind Double.read?).getD configuration.timeouts.commandTimeoutSecs } } := by
  cases value? with
  | none => rfl
  | some value => cases isRead : Double.read? value <;> simp [placed, setCommandTimeout, isRead]

@[simp]
theorem placed_setSlaveRequestId : placed setSlaveRequestId value? configuration =
    { configuration with session := { configuration.session with
      slaveRequestId := value?.getD configuration.session.slaveRequestId } } := by
  cases value? <;> rfl

@[simp]
theorem placed_setSceneKey : placed setSceneKey value? configuration =
    { configuration with session := { configuration.session with
      sceneKey := value?.getD configuration.session.sceneKey } } := by
  cases value? <;> rfl

@[simp]
theorem placed_setTaskParameters : placed setTaskParameters value? configuration =
    { configuration with session := { configuration.session with
      taskParameters := value?.getD configuration.session.taskParameters } } := by
  cases value? <;> rfl

@[simp]
theorem placed_setLogLevel : placed setLogLevel value? configuration =
    { configuration with logging := { configuration.logging with
      level := value?.getD configuration.logging.level } } := by
  cases value? <;> rfl

end Placing

/-! ## All fields -/

theorem applyAll_eq_foldl (overrides : List Override) (lookup : String → Option String)
    (configuration : Configuration) :
    applyAll overrides lookup configuration =
      overrides.foldl (fun reached entry => placed entry.2 (lookup entry.1) reached)
        configuration := by
  rfl

def layered (environment : Environment) (flags : List (String × String))
    (base : Configuration) : Configuration :=
  let flag? := flagValue? flags
  let inherited? := environment.get?
  { base with
    controller := {
      host := topmost some (flag? "controller_hostname") (inherited? "CTRLINK_HOST")
        base.controller.host
      httpPort := topmost readPort? (flag? "controller_port") none base.controller.httpPort }
    ports := {
      commandPort := topmost readPort? (flag? "zmq_port") (inherited? "CTRLINK_COMMAND_PORT")
        base.ports.commandPort
      heartbeatPort := topmost readPort? (flag? "heartbeat_port")
        (inherited? "CTRLINK_HEARTBEAT_PORT") base.ports.heartbeatPort }
    timeouts := { base.timeouts with
      commandTimeoutSecs := topmost Double.read? (flag? "controller_command_timeout")
        (inherited? "CTRLINK_COMMAND_TIMEOUT") base.timeouts.commandTimeoutSecs }
    session := { base.session with
      slaveRequestId := topmost some (flag? "slave_request_id")
        (inherited? "CTRLINK_SLAVE_REQUEST_ID") base.session.slaveRequestId
      sceneKey := topmost some (flag? "task_scenepk") (inherited? "CTRLINK_SCENE_PK")
        base.session.sceneKey
      taskParameters := topmost some (flag? "taskparameters") none base.session.taskParameters }
    logging := {
      level := topmost some none (inherited? "CTRLINK_LOG_LEVEL") base.logging.level } }

/-- Placing the values tier by tier gives every field the topmost of its values. -/
theorem override_eq_layered (environment : Environment) (flags : List (String × String))
    (base : Configuration) : base.override environment flags = layered environment flags base := by
  simp [override, applyAll_eq_foldl, variableOverrides, flagOverrides, layered, topmost]

example : (layered
      { entries := [("CTRLINK_COMMAND_PORT", "7110".toUTF8), ("CTRLINK_SCENE_PK", "s".toUTF8)] }
      [("zmq_port", "70000"), ("task_scenepk", "")] {}) =
    { ports := { commandPort := 7110 }, session := { sceneKey := "" } } := by
  decide +kernel

/-! ## The lowest tier -/

/-- What configurations are layered on, given the path that is asked for, if any. -/
inductive Grounds (files : FileView) (environment : Environment)
    (workingDirectory : Option String) :
    Option String → Except ConfigurationError Configuration → Prop where
  | asked (path : String) :
      Grounds files environment workingDirectory (some path) (readFile files path)
  | named {path : String}
      (set : environment.bytes? configurationPathVariable = some path.toUTF8)
      (present : files.has path = true) :
      Grounds files environment workingDirectory none (readFile files path)
  | lost {path : String}
      (set : environment.bytes? configurationPathVariable = some path.toUTF8)
      (absent : files.has path = false) :
      Grounds files environment workingDirectory none (.error (.notFound
        s!"Config file specified by {configurationPathVariable} not found: {path}"))
  | found {nearer further : List String} {path : String}
      (textless : environment.bytes? configurationPathVariable = none ∨
        environment.IsGarbled configurationPathVariable)
      (searched : searchPaths workingDirectory = nearer ++ path :: further)
      (absent : ∀ passed ∈ nearer, files.has passed = false) (present : files.has path = true) :
      Grounds files environment workingDirectory none (readFile files path)
  | defaults
      (textless : environment.bytes? configurationPathVariable = none ∨
        environment.IsGarbled configurationPathVariable)
      (absent : ∀ path ∈ searchPaths workingDirectory, files.has path = false) :
      Grounds files environment workingDirectory none (.ok {})

section Loading

variable (files : FileView) (environment : Environment) (workingDirectory : Option String)

theorem grounds_loadBase (asked? : Option String) :
    Grounds files environment workingDirectory asked?
      (loadBase files environment workingDirectory asked?) := by
  cases asked? with
  | some path => exact .asked path
  | none =>
      cases set : environment.get? configurationPathVariable with
      | some path =>
          cases present : files.has path with
          | true =>
              simpa [loadBase, findConfiguration, set, present] using
                Grounds.named (Environment.get?_eq_some_iff.mp set) present
          | false =>
              simpa [loadBase, findConfiguration, Environment.has, set, present] using
                Grounds.lost (Environment.get?_eq_some_iff.mp set) present
      | none =>
          have textless := Environment.get?_eq_none_iff.mp set
          cases search : (searchPaths workingDirectory).find? files.has with
          | some path =>
              obtain ⟨present, nearer, further, searched, absent⟩ :=
                List.find?_eq_some_iff_append.mp search
              have passed : ∀ path ∈ nearer, files.has path = false := by simpa using absent
              simpa [loadBase, findConfiguration, set, search] using
                Grounds.found textless searched passed present
          | none =>
              have absent : ∀ path ∈ searchPaths workingDirectory, files.has path = false := by
                simpa using search
              simpa [loadBase, findConfiguration, Environment.has, set, search] using
                Grounds.defaults textless absent

theorem load_eq_map (asked? : Option String) (flags : List (String × String)) :
    load files environment workingDirectory asked? flags =
      (loadBase files environment workingDirectory asked?).map (layered environment flags) := by
  unfold load
  cases loadBase files environment workingDirectory asked? with
  | error error => rfl
  | ok base => simp [override_eq_layered, Except.map]

theorem readFile_of_absent {path : String} (absent : files.has path = false) :
    readFile files path = .error (.unreadable .missing) := by
  have missing : files path = none := by simpa [FileView.has] using absent
  simp [readFile, FileView.readText, missing]

end Loading

def atWork : FileView := fun path =>
  if path = "/work/ctrlink.toml" then some (.ok ByteArray.empty) else none

end Configuration

end TaskLink
