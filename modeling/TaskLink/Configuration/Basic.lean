import TaskLink.Number.Text

/-!
# Configuration

The sections of a configuration file.  Every field has a default, so a partial
or empty file is a configuration.
-/

namespace TaskLink

structure ControllerSection where
  host : String := "127.0.0.1"
  httpPort : UInt16 := 80
  deriving DecidableEq

structure PortsSection where
  commandPort : UInt16 := 11000
  heartbeatPort : UInt16 := 11001
  deriving DecidableEq

def tenSeconds : Double := Double.ofNat 10

/-- Deadlines in seconds, where a number that is not positive means none. -/
structure TimeoutsSection where
  commandTimeoutSecs : Double := tenSeconds
  reinitializeTimeoutSecs : Double := tenSeconds
  pollIntervalMillis : UInt64 := 100
  deriving DecidableEq

structure DiscoverySection where
  maxAttempts : UInt32 := 10
  retryIntervalMillis : UInt64 := 100
  deriving DecidableEq

structure SocketsSection where
  highWaterMark : Int32 := 2
  lingerMillis : Int32 := 100
  keepalive : Bool := true
  keepaliveIdle : Int32 := 2
  keepaliveInterval : Int32 := 2
  keepaliveCount : Int32 := 2
  deriving DecidableEq

def defaultTaskType : String := "realtimeitlplanning"

/-- Identity of the session and defaults of its commands; what is empty is discovered. -/
structure SessionSection where
  sceneKey : String := ""
  slaveRequestId : String := ""
  taskType : String := defaultTaskType
  taskParameters : String := "\x7b\x7d"
  userInfo : String := "\x7b\x7d"
  deriving DecidableEq

structure LoggingSection where
  level : String := "info"
  deriving DecidableEq

structure Configuration where
  controller : ControllerSection := {}
  ports : PortsSection := {}
  timeouts : TimeoutsSection := {}
  discovery : DiscoverySection := {}
  sockets : SocketsSection := {}
  session : SessionSection := {}
  logging : LoggingSection := {}
  deriving DecidableEq

instance : Inhabited Configuration := ⟨{}⟩

namespace TimeoutsSection

def commandTimeout (timeouts : TimeoutsSection) : Option Duration :=
  Duration.ofSeconds? timeouts.commandTimeoutSecs

def reinitializeTimeout (timeouts : TimeoutsSection) : Option Duration :=
  Duration.ofSeconds? timeouts.reinitializeTimeoutSecs

def pollInterval (timeouts : TimeoutsSection) : Duration :=
  .ofMillis timeouts.pollIntervalMillis.toNat

end TimeoutsSection

end TaskLink
