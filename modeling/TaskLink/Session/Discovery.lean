import TaskLink.Duration
import TaskLink.Session.Error

/-!
# Discovery

Heartbeats are fetched from a source until one that is not empty arrives or
the attempts are used up.  An attempt that brings nothing lasts at least as
long as the interval of the policy.
-/

namespace TaskLink

/-- How hard discovery tries: how often, and how long each time. -/
structure DiscoveryPolicy where
  maxAttempts : UInt32 := 10
  retryInterval : Duration := .ofMillis 100
  deriving DecidableEq

namespace DiscoveryPolicy

def attempts (policy : DiscoveryPolicy) : Nat :=
  Nat.max 1 policy.maxAttempts.toNat

def budget (policy : DiscoveryPolicy) : Duration :=
  policy.retryInterval.times policy.attempts

end DiscoveryPolicy

/-! ## Sources -/

/--
A source of heartbeats.  Before it is opened the surroundings have type `σ`;
while it is open, it and the surroundings together have type `τ`.
-/
structure HeartbeatSource (σ τ : Type) where
  endpoint : String
  openSource : σ → Except (SessionError × σ) τ
  fetch : Duration → τ → Except SessionError (Option String) × τ
  closeSource : τ → σ
  /-- Nanoseconds that have passed. -/
  clock : τ → Nat
  sleep : Duration → τ → τ

/-! ## Discovery -/

namespace HeartbeatSource

variable {σ τ : Type}

/-- Sleep for what is left of a wait that began at some time of the clock. -/
def pace (source : HeartbeatSource σ τ) (wait : Duration) (started : Nat) (opened : τ) : τ :=
  let spent := source.clock opened - started
  if spent < wait.nanos then source.sleep (.ofNanos (wait.nanos - spent)) opened else opened

def discoverWithin (source : HeartbeatSource σ τ) (wait : Duration) :
    Nat → τ → Except SessionError String × τ
  | 0, opened => (.error (.noHeartbeat source.endpoint), opened)
  | attempts + 1, opened =>
      let started := source.clock opened
      match source.fetch wait opened with
      | (.error error, opened) => (.error error, opened)
      | (.ok none, opened) =>
          discoverWithin source wait attempts (source.pace wait started opened)
      | (.ok (some heartbeat), opened) =>
          if heartbeat.isEmpty then
            discoverWithin source wait attempts (source.pace wait started opened)
          else (.ok heartbeat, opened)

/-- The first heartbeat that is not empty, within the policy. -/
def discover (source : HeartbeatSource σ τ) (policy : DiscoveryPolicy) (opened : τ) :
    Except SessionError String × τ :=
  source.discoverWithin policy.retryInterval policy.attempts opened

end HeartbeatSource

/-! ## Scripts -/

/--
Answers that a source gives one after the other, and the waits it was asked
for.  It takes no time to answer.
-/
structure HeartbeatScript where
  answers : List (Except SessionError (Option String))
  waits : List Duration := []
  opened : Bool := false
  clock : Nat := 0

namespace HeartbeatScript

def fetch (wait : Duration) (script : HeartbeatScript) :
    Except SessionError (Option String) × HeartbeatScript :=
  let waits := script.waits ++ [wait]
  match script.answers with
  | [] => (.ok none, { script with waits := waits })
  | answer :: rest => (answer, { script with answers := rest, waits := waits })

def source (endpoint : String) (openError : Option SessionError) :
    HeartbeatSource HeartbeatScript HeartbeatScript where
  endpoint := endpoint
  openSource script :=
    let script := { script with opened := true }
    match openError with
    | some error => .error (error, script)
    | none => .ok script
  fetch := fetch
  closeSource script := script
  clock script := script.clock
  sleep span script := { script with clock := script.clock + span.nanos }

end HeartbeatScript

end TaskLink
