import TaskLink.Link.Error
import TaskLink.Text.Blank

/-!
# Endpoints and options

Where a socket connects or binds, how it is tuned, and what clients and
servers are configured with.
-/

namespace TaskLink

/-! ## Endpoints -/

/-- One side of a messaging socket.  Binding roles ignore the host. -/
structure Endpoint where
  host : String
  port : UInt16
  deriving DecidableEq

namespace Endpoint

def any (port : UInt16) : Endpoint :=
  ⟨"*", port⟩

def connectAddress (endpoint : Endpoint) : String :=
  s!"tcp://{endpoint.host}:{endpoint.port.toNat}"

def bindAddress (endpoint : Endpoint) : String :=
  s!"tcp://*:{endpoint.port.toNat}"

def text (endpoint : Endpoint) : String :=
  endpoint.connectAddress

def validate (endpoint : Endpoint) : Except LinkError Unit :=
  if allBlank endpoint.host then
    .error (.invalidSettings "Endpoint host cannot be empty")
  else if endpoint.port == 0 then
    .error (.invalidSettings "Endpoint port must be greater than 0")
  else .ok ()

end Endpoint

/-! ## Options -/

/-- Tuning applied to a socket before it connects or binds. -/
structure SocketOptions where
  highWaterMark : Int32 := 2
  lingerMillis : Int32 := 100
  keepalive : Bool := true
  keepaliveIdle : Int32 := 2
  keepaliveInterval : Int32 := 2
  keepaliveCount : Int32 := 2
  deriving DecidableEq

namespace SocketOptions

def withHighWaterMark (options : SocketOptions) (depth : Int32) : SocketOptions :=
  { options with highWaterMark := depth }

def withLinger (options : SocketOptions) (linger : Duration) : SocketOptions :=
  { options with lingerMillis := Int32.ofNat (Nat.min linger.millis 2147483647) }

def withoutKeepalive (options : SocketOptions) : SocketOptions :=
  { options with keepalive := false }

def validate (options : SocketOptions) : Except LinkError Unit :=
  if options.highWaterMark ≤ 0 then
    .error (.invalidSettings "High water mark must be greater than 0")
  else .ok ()

end SocketOptions

/-! ## Clients and servers -/

def defaultCallTimeout : Duration := .ofSecs 5

/-- Bytes of the largest request that a client accepts by default. -/
def defaultMaxMessageSize : UInt64 := 10485760

/-- What a connecting role is configured with; no default timeout waits for ever. -/
structure ClientSettings where
  endpoint : Endpoint
  options : SocketOptions := {}
  defaultTimeout : Option Duration := some defaultCallTimeout
  pollInterval : Duration := .ofMillis 100
  maxMessageSize : UInt64 := defaultMaxMessageSize
  deriving DecidableEq

structure ServerSettings where
  endpoint : Endpoint
  options : SocketOptions := {}
  deriving DecidableEq

/-- Endpoint, options, poll interval and size limit are checked in that order. -/
def ClientSettings.validate (settings : ClientSettings) : Except LinkError Unit := do
  settings.endpoint.validate
  settings.options.validate
  if settings.pollInterval.isZero then
    throw (.invalidSettings "Poll interval must be greater than 0")
  if settings.maxMessageSize == 0 then
    throw (.invalidSettings "Maximum message size must be greater than 0")

def ServerSettings.ofPort (port : UInt16) (options : SocketOptions) : ServerSettings :=
  { endpoint := .any port, options := options }

def ServerSettings.validate (settings : ServerSettings) : Except LinkError Unit := do
  settings.endpoint.validate
  settings.options.validate

end TaskLink
