import TaskLink.Configuration.Basic
import TaskLink.Link.Record
import TaskLink.Session.Identity

/-!
# Session options

Everything that is needed to reach a task session, and how a configuration
describes it.
-/

namespace TaskLink

structure SessionOptions where
  host : String := "127.0.0.1"
  commandPort : UInt16 := 11000
  heartbeatPort : UInt16 := 11001
  sceneKey : String := ""
  slaveRequestId : String := ""
  taskType : String := defaultTaskType
  taskParameters : Json := Json.emptyObject
  userInfo : Json := Json.emptyObject
  commandTimeout : Option Duration := some (.ofSecs 10)
  reinitializeTimeout : Option Duration := some (.ofSecs 10)
  pollInterval : Duration := .ofMillis 100
  discovery : DiscoveryPolicy := {}
  socketOptions : SocketOptions := {}

namespace SessionOptions

def commandEndpoint (options : SessionOptions) : Endpoint :=
  ⟨options.host, options.commandPort⟩

def heartbeatEndpoint (options : SessionOptions) : Endpoint :=
  ⟨options.host, options.heartbeatPort⟩

def suppliedIdentity (options : SessionOptions) : SessionIdentity :=
  ⟨options.sceneKey, options.slaveRequestId⟩

def clientSettings (options : SessionOptions) : ClientSettings :=
  { endpoint := options.commandEndpoint
    options := options.socketOptions
    defaultTimeout := options.commandTimeout
    pollInterval := options.pollInterval }

def heartbeatSettings (options : SessionOptions) : ClientSettings :=
  { endpoint := options.heartbeatEndpoint, options := options.socketOptions }

/-! ## Rules -/

def complaint (condition : Bool) (text : String) : List String :=
  if condition then [text] else []

def complaints (options : SessionOptions) : List String :=
  complaint options.host.isEmpty "host cannot be empty" ++
  complaint (options.commandPort == 0 || options.heartbeatPort == 0) "ports must be non-zero" ++
  complaint (options.commandPort == options.heartbeatPort)
    s!"command and heartbeat ports are both {options.commandPort.toNat}" ++
  complaint (!options.taskParameters.isObject) "task parameters must be a JSON object" ++
  complaint (!options.userInfo.isObject) "user info must be a JSON object"

def validate (options : SessionOptions) : Except SessionError Unit :=
  match options.complaints with
  | [] => .ok ()
  | found => .error (.invalidArguments ("; ".intercalate found))

/-! ## From a configuration -/

def readObject (field text : String) : Except SessionError Json :=
  match Json.readOrExplain text with
  | .error explanation =>
      .error (.invalidArguments s!"{field} is not valid JSON: {explanation}")
  | .ok value =>
      if value.isObject then .ok value
      else .error (.invalidArguments s!"{field} must be a JSON object")

def socketOptionsOf (sockets : SocketsSection) : SocketOptions :=
  { highWaterMark := sockets.highWaterMark
    lingerMillis := sockets.lingerMillis
    keepalive := sockets.keepalive
    keepaliveIdle := sockets.keepaliveIdle
    keepaliveInterval := sockets.keepaliveInterval
    keepaliveCount := sockets.keepaliveCount }

def discoveryOf (discovery : DiscoverySection) : DiscoveryPolicy :=
  { maxAttempts := discovery.maxAttempts
    retryInterval := .ofMillis discovery.retryIntervalMillis.toNat }

def ofConfiguration (configuration : Configuration) : Except SessionError SessionOptions := do
  let session := configuration.session
  let taskParameters ← readObject "task_parameters" session.taskParameters
  let userInfo ← readObject "user_info" session.userInfo
  return {
    host := configuration.controller.host
    commandPort := configuration.ports.commandPort
    heartbeatPort := configuration.ports.heartbeatPort
    sceneKey := session.sceneKey
    slaveRequestId := session.slaveRequestId
    taskType := session.taskType
    taskParameters := taskParameters
    userInfo := userInfo
    commandTimeout := configuration.timeouts.commandTimeout
    reinitializeTimeout := configuration.timeouts.reinitializeTimeout
    pollInterval := configuration.timeouts.pollInterval
    discovery := discoveryOf configuration.discovery
    socketOptions := socketOptionsOf configuration.sockets }

end SessionOptions

end TaskLink
