import TaskLink.Configuration.Basic
import TaskLink.Configuration.Error
import TaskLink.Json.Reader
import TaskLink.Text.Blank

/-!
# Rules of a configuration

Every rule is checked, and the violated ones are reported together in the
order of the rules.
-/

namespace TaskLink

inductive Violation where
  | portConflict (first second : String) (port : UInt16)
  | missing (field : String)
  | invalid (field reason : String)
  deriving DecidableEq

def Violation.message : Violation → String
  | .portConflict first second port =>
      s!"Port conflict: {first} and {second} both use port {port.toNat}"
  | .missing field => s!"Missing required configuration: {field}"
  | .invalid field reason => s!"Invalid configuration value for {field}: {reason}"

namespace Configuration

def when (condition : Bool) (violation : Violation) : List Violation :=
  if condition then [violation] else []

def objectRule (field text : String) : List Violation :=
  match Json.readOrExplain text with
  | .ok value => when (!value.isObject) (.invalid field "must be a JSON object")
  | .error explanation => [.invalid field s!"invalid JSON: {explanation}"]

def portRule (field : String) (port : UInt16) : List Violation :=
  when (port == 0) (.invalid field "port 0 cannot be connected to")

def violations (configuration : Configuration) : List Violation :=
  let ports := configuration.ports
  when (allBlank configuration.controller.host) (.missing "controller.host") ++
  portRule "ports.command_port" ports.commandPort ++
  portRule "ports.heartbeat_port" ports.heartbeatPort ++
  when (ports.commandPort != 0 && ports.commandPort == ports.heartbeatPort)
    (.portConflict "ports.command_port" "ports.heartbeat_port" ports.commandPort) ++
  when (configuration.discovery.maxAttempts == 0)
    (.invalid "discovery.max_attempts" "must be at least 1") ++
  when (configuration.sockets.highWaterMark ≤ 0)
    (.invalid "sockets.high_water_mark" "must be positive") ++
  when (configuration.timeouts.pollIntervalMillis == 0)
    (.invalid "timeouts.poll_interval_ms" "must be positive") ++
  objectRule "session.task_parameters" configuration.session.taskParameters ++
  objectRule "session.user_info" configuration.session.userInfo

def report (found : List Violation) : String :=
  "Configuration validation failed:\n" ++
    "\n".intercalate (found.map fun violation => "  - " ++ violation.message)

/-- A configuration is valid when it violates no rule. -/
def validate (configuration : Configuration) : Except ConfigurationError Unit :=
  match configuration.violations with
  | [] => .ok ()
  | found => .error (.invalid (report found))

end Configuration

end TaskLink
