import TaskLink.Json.Draft
import TaskLink.Json.Printer
import TaskLink.Link.Endpoint

/-!
# Settings as data texts

Endpoints, options and the settings of clients and servers are read from
records, written as objects or as arrays of exactly their fields, and are
written as objects with their fields in order of declaration.
-/

namespace TaskLink

/-! ## Fields -/

namespace JsonDraft

def natBelow? (bound : Nat) (draft : JsonDraft) : Option Nat :=
  match draft.whole? with
  | some (.ofNat value) => if value < bound then some value else none
  | _ => none

def int32? (draft : JsonDraft) : Option Int32 :=
  match draft.whole? with
  | some value =>
      if Int32.minValue.toInt ≤ value ∧ value ≤ Int32.maxValue.toInt then some (Int32.ofInt value) else none
  | none => none

/-- All fields of a record: an array has exactly one item for each of them. -/
def record? (names : List String) (draft : JsonDraft) : Option (List (Option JsonDraft)) :=
  if draft.hasArity names.length then draft.fields? names else none

end JsonDraft

/-! ## Durations -/

namespace Duration

/-- A duration from seconds and nanoseconds; a whole second of nanoseconds carries. -/
def ofDraft? (draft : JsonDraft) : Option Duration :=
  if draft.knowsOnly ["secs", "nanos"] then
    match draft.record? ["secs", "nanos"] with
    | some [some secs, some nanos] =>
        match secs.natBelow? UInt64.size, nanos.natBelow? UInt32.size with
        | some secs, some nanos =>
            let total := secs * nanosPerSec + nanos
            if h : total < UInt64.size * nanosPerSec then some ⟨total, h⟩ else none
        | _, _ => none
    | _ => none
  else none

def toJson (span : Duration) : Json :=
  .object [("secs", Json.ofInt span.secs), ("nanos", Json.ofInt span.subsecNanos)]

end Duration

/-! ## Endpoints and options -/

namespace Endpoint

def ofDraft? (draft : JsonDraft) : Option Endpoint :=
  match draft.record? ["host", "port"] with
  | some [some host, some port] =>
      match host.text?, port.natBelow? UInt16.size with
      | some host, some port => some ⟨host, UInt16.ofNat port⟩
      | _, _ => none
  | _ => none

def toJson (endpoint : Endpoint) : Json :=
  .object [("host", .text endpoint.host), ("port", Json.ofInt endpoint.port.toNat)]

end Endpoint

namespace SocketOptions

def fieldNames : List String :=
  ["high_water_mark", "linger_ms", "tcp_keepalive", "tcp_keepalive_idle_secs",
   "tcp_keepalive_interval_secs", "tcp_keepalive_count"]

def ofDraft? (draft : JsonDraft) : Option SocketOptions := do
  match draft.record? fieldNames with
  | some [some depth, some linger, some keepalive, some idle, some interval, some count] =>
      return {
        highWaterMark := ← depth.int32?
        lingerMillis := ← linger.int32?
        keepalive := ← keepalive.bool?
        keepaliveIdle := ← idle.int32?
        keepaliveInterval := ← interval.int32?
        keepaliveCount := ← count.int32? }
  | _ => none

def toJson (options : SocketOptions) : Json :=
  .object
    [("high_water_mark", Json.ofInt options.highWaterMark.toInt),
     ("linger_ms", Json.ofInt options.lingerMillis.toInt),
     ("tcp_keepalive", .bool options.keepalive),
     ("tcp_keepalive_idle_secs", Json.ofInt options.keepaliveIdle.toInt),
     ("tcp_keepalive_interval_secs", Json.ofInt options.keepaliveInterval.toInt),
     ("tcp_keepalive_count", Json.ofInt options.keepaliveCount.toInt)]

end SocketOptions

/-! ## Settings -/

def optionalOfDraft? {α : Type} (read : JsonDraft → Option α) :
    Option JsonDraft → Option (Option α)
  | none => some none
  | some .null => some none
  | some draft => (read draft).map some

def optionalToJson {α : Type} (write : α → Json) : Option α → Json
  | none => .null
  | some value => write value

namespace ClientSettings

def fieldNames : List String :=
  ["endpoint", "options", "default_timeout", "poll_interval", "max_message_size"]

def ofDraft? (draft : JsonDraft) : Option ClientSettings := do
  match draft.record? fieldNames with
  | some [some endpoint, some options, timeout, some interval, some size] =>
      return {
        endpoint := ← Endpoint.ofDraft? endpoint
        options := ← SocketOptions.ofDraft? options
        defaultTimeout := ← optionalOfDraft? Duration.ofDraft? timeout
        pollInterval := ← Duration.ofDraft? interval
        maxMessageSize := UInt64.ofNat (← size.natBelow? UInt64.size) }
  | _ => none

def toJson (settings : ClientSettings) : Json :=
  .object
    [("endpoint", settings.endpoint.toJson),
     ("options", settings.options.toJson),
     ("default_timeout", optionalToJson Duration.toJson settings.defaultTimeout),
     ("poll_interval", settings.pollInterval.toJson),
     ("max_message_size", Json.ofInt settings.maxMessageSize.toNat)]

end ClientSettings

namespace ServerSettings

def ofDraft? (draft : JsonDraft) : Option ServerSettings := do
  match draft.record? ["endpoint", "options"] with
  | some [some endpoint, some options] =>
      return {
        endpoint := ← Endpoint.ofDraft? endpoint
        options := ← SocketOptions.ofDraft? options }
  | _ => none

def toJson (settings : ServerSettings) : Json :=
  .object [("endpoint", settings.endpoint.toJson), ("options", settings.options.toJson)]

end ServerSettings

/-! ## Texts -/

def readRecord? {α : Type} (ofDraft : JsonDraft → Option α) (text : String) : Option α :=
  match JsonDraft.read text with
  | .ok draft => ofDraft draft
  | .error _ => none

end TaskLink
