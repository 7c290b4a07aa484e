import TaskLink.Configuration.Basic
import TaskLink.Toml.Reader

/-!
# Configuration files

A section is a table, whose unknown keys are passed over, or an array that
lists the section's fields in order.  What a file leaves out keeps its
default; a value of another type or out of range refuses the file.
-/

namespace TaskLink

/-! ## Sections -/

namespace Toml

/-- Items taken as fields, as far as they go; further ones are passed over. -/
def orderedFields : List String → List Toml → List (Option Toml)
  | [], _ => []
  | _ :: names, [] => none :: orderedFields names []
  | _ :: names, item :: rest => some item :: orderedFields names rest

def sectionFields? (names : List String) : Toml → Option (List (Option Toml))
  | .table _ entries => some (names.map (TomlEntries.find? entries))
  | .array items => some (orderedFields names items)
  | .tables rows => some (orderedFields names (rows.map (.table .header)))
  | .date => some (names.map fun _ => none)
  | _ => none

/-! ## Fields -/

def text? : Toml → Option String
  | .text value => some value
  | _ => none

def bool? : Toml → Option Bool
  | .bool value => some value
  | _ => none

def double? : Toml → Option Double
  | .double value => some value
  | .whole value => some (Double.ofRatio (value < 0) value.natAbs 1)
  | _ => none

def wholeBetween? (low high : Int) : Toml → Option Int
  | .whole value => if low ≤ value ∧ value < high then some value else none
  | _ => none

def uint16? (value : Toml) : Option UInt16 :=
  (wholeBetween? 0 UInt16.size value).map fun value => UInt16.ofNat value.toNat

def uint32? (value : Toml) : Option UInt32 :=
  (wholeBetween? 0 UInt32.size value).map fun value => UInt32.ofNat value.toNat

def uint64? (value : Toml) : Option UInt64 :=
  (wholeBetween? 0 UInt64.size value).map fun value => UInt64.ofNat value.toNat

def int32? (value : Toml) : Option Int32 :=
  (wholeBetween? Int32.minValue.toInt (Int32.maxValue.toInt + 1) value).map Int32.ofInt

/-- A field that keeps its default when it is left out. -/
def orDefault {α : Type} (read : Toml → Option α) (default : α) : Option Toml → Option α
  | none => some default
  | some value => read value

end Toml

open Toml (orDefault sectionFields?)

/-! ## Reading sections -/

def ControllerSection.ofToml? (source : Toml) : Option ControllerSection := do
  match ← sectionFields? ["host", "http_port"] source with
  | [host, port] =>
      let base : ControllerSection := {}
      return {
        host := ← orDefault Toml.text? base.host host
        httpPort := ← orDefault Toml.uint16? base.httpPort port }
  | _ => none

def PortsSection.ofToml? (source : Toml) : Option PortsSection := do
  match ← sectionFields? ["command_port", "heartbeat_port"] source with
  | [command, heartbeat] =>
      let base : PortsSection := {}
      return {
        commandPort := ← orDefault Toml.uint16? base.commandPort command
        heartbeatPort := ← orDefault Toml.uint16? base.heartbeatPort heartbeat }
  | _ => none

def TimeoutsSection.ofToml? (source : Toml) : Option TimeoutsSection := do
  match ← sectionFields?
      ["command_timeout_secs", "reinitialize_timeout_secs", "poll_interval_ms"] source with
  | [command, reinitialize, poll] =>
      let base : TimeoutsSection := {}
      return {
        commandTimeoutSecs := ← orDefault Toml.double? base.commandTimeoutSecs command
        reinitializeTimeoutSecs :=
          ← orDefault Toml.double? base.reinitializeTimeoutSecs reinitialize
        pollIntervalMillis := ← orDefault Toml.uint64? base.pollIntervalMillis poll }
  | _ => none

def DiscoverySection.ofToml? (source : Toml) : Option DiscoverySection := do
  match ← sectionFields? ["max_attempts", "retry_interval_ms"] source with
  | [attempts, interval] =>
      let base : DiscoverySection := {}
      return {
        maxAttempts := ← orDefault Toml.uint32? base.maxAttempts attempts
        retryIntervalMillis := ← orDefault Toml.uint64? base.retryIntervalMillis interval }
  | _ => none

def SocketsSection.ofToml? (source : Toml) : Option SocketsSection := do
  match ← sectionFields?
      ["high_water_mark", "linger_ms", "tcp_keepalive", "tcp_keepalive_idle_secs",
       "tcp_keepalive_interval_secs", "tcp_keepalive_count"] source with
  | [depth, linger, keepalive, idle, interval, count] =>
      let base : SocketsSection := {}
      return {
        highWaterMark := ← orDefault Toml.int32? base.highWaterMark depth
        lingerMillis := ← orDefault Toml.int32? base.lingerMillis linger
        keepalive := ← orDefault Toml.bool? base.keepalive keepalive
        keepaliveIdle := ← orDefault Toml.int32? base.keepaliveIdle idle
        keepaliveInterval := ← orDefault Toml.int32? base.keepaliveInterval interval
        keepaliveCount := ← orDefault Toml.int32? base.keepaliveCount count }
  | _ => none

def SessionSection.ofToml? (source : Toml) : Option SessionSection := do
  match ← sectionFields?
      ["scene_pk", "slave_request_id", "task_type", "task_parameters", "user_info"] source with
  | [scene, slave, task, parameters, user] =>
      let base : SessionSection := {}
      return {
        sceneKey := ← orDefault Toml.text? base.sceneKey scene
        slaveRequestId := ← orDefault Toml.text? base.slaveRequestId slave
        taskType := ← orDefault Toml.text? base.taskType task
        taskParameters := ← orDefault Toml.text? base.taskParameters parameters
        userInfo := ← orDefault Toml.text? base.userInfo user }
  | _ => none

def LoggingSection.ofToml? (source : Toml) : Option LoggingSection := do
  match ← sectionFields? ["level"] source with
  | [level] =>
      let base : LoggingSection := {}
      return { level := ← orDefault Toml.text? base.level level }
  | _ => none

namespace Configuration

def ofEntries? (entries : TomlEntries) : Option Configuration := do
  return {
    controller := ← orDefault ControllerSection.ofToml? {} (entries.find? "controller")
    ports := ← orDefault PortsSection.ofToml? {} (entries.find? "ports")
    timeouts := ← orDefault TimeoutsSection.ofToml? {} (entries.find? "timeouts")
    discovery := ← orDefault DiscoverySection.ofToml? {} (entries.find? "discovery")
    sockets := ← orDefault SocketsSection.ofToml? {} (entries.find? "sockets")
    session := ← orDefault SessionSection.ofToml? {} (entries.find? "session")
    logging := ← orDefault LoggingSection.ofToml? {} (entries.find? "logging") }

def ofFileText? (text : String) : Option Configuration :=
  (Toml.read? text).bind ofEntries?

end Configuration

end TaskLink
