import TaskLink.Messaging.Requester
import TaskLink.Messaging.Subscriber
import TaskLink.Session.Backoff
import TaskLink.Session.Command
import TaskLink.Session.Options

/-!
# Task session

A session is reached in three steps: a missing identity is discovered, it is
completed from a heartbeat, and a client is connected to the command port.
Commands then go to the session one at a time.  A monitor may watch the
session's heartbeat beside it; when the monitor asks for it, the client is
replaced before the next command.
-/

namespace TaskLink

/-! ## Watchers -/

/-- A monitor that runs beside a session. -/
structure WatcherId where
  number : Nat
  deriving DecidableEq

/-- How monitors are started, asked and stopped in surroundings of type `σ`. -/
structure Watchers (σ : Type) where
  start : ContextId → Endpoint → SocketOptions → Option Duration → σ →
    Except SessionError WatcherId × σ
  stop : WatcherId → σ → σ
  /-- Whether a replacement was asked for; asking takes the request. -/
  takeRequest : WatcherId → σ → Bool × σ
  latest : WatcherId → σ → Option String

/-- Where there are no monitors. -/
def noWatchers {σ : Type} : Watchers σ where
  start _ _ _ _ s := (.error (.worker "heartbeat monitor: not available"), s)
  stop _ s := s
  takeRequest _ s := (false, s)
  latest _ _ := none

/-! ## Heartbeats from a subscriber -/

def subscribedHeartbeats {σ : Type} (fabric : Fabric σ) (context : ContextId)
    (settings : ClientSettings) : HeartbeatSource σ (Subscriber × σ) where
  endpoint := settings.endpoint.connectAddress
  openSource s :=
    match Subscriber.create settings none with
    | .error error => .error (.link error, s)
    | .ok subscriber =>
        match subscriber.lifecycle.establish fabric (some context) s with
        | (.error error, _, s) => .error (.link error, s)
        | (.ok _, lifecycle, s) => .ok (⟨lifecycle⟩, s)
  fetch wait
    | (subscriber, s) =>
        match subscriber.receiveLatest fabric (some wait) s with
        | (.error error, s) => (.error (.link error), subscriber, s)
        | (.ok message, s) => (.ok (message.map decodeLenient), subscriber, s)
  closeSource
    | (subscriber, s) => (subscriber.lifecycle.destroy fabric s).2
  clock
    | (_, s) => fabric.clock s
  sleep span
    | (subscriber, s) => (subscriber, fabric.sleep span s)

/-! ## The session -/

structure TaskSession (σ : Type) where
  options : SessionOptions
  identity : SessionIdentity
  context : ContextId
  client : Requester σ
  watcher : Option WatcherId := none

namespace TaskSession

variable {σ : Type} (fabric : Fabric σ)

/-! ## Bootstrap -/

def bind (options : SessionOptions) (identity : SessionIdentity) (context : ContextId) (s : σ) :
    Except SessionError (TaskSession σ) × σ :=
  match Requester.create options.clientSettings none none with
  | .error error => (.error (.link error), s)
  | .ok client =>
      match client.lifecycle.establish fabric (some context) s with
      | (.error error, _, s) => (.error (.link error), s)
      | (.ok _, lifecycle, s) =>
          (.ok {
            options := options
            identity := identity
            context := context
            client := { client with lifecycle := lifecycle } }, s)

def bootstrapOn (context : ContextId) (options : SessionOptions) (s : σ) :
    Except SessionError (TaskSession σ) × σ :=
  match options.validate with
  | .error error => (.error error, s)
  | .ok () =>
      let source := subscribedHeartbeats fabric context options.heartbeatSettings
      match options.suppliedIdentity.resolve options.discovery source s with
      | (.error error, s) => (.error error, s)
      | (.ok identity, s) => bind fabric options identity context s

def bootstrap (options : SessionOptions) (s : σ) : Except SessionError (TaskSession σ) × σ :=
  match fabric.newContext s with
  | (context, s) => bootstrapOn fabric context options s

/-- Bootstrap with heartbeats from another source, which lives in surroundings of its own. -/
def bootstrapFrom {ρ τ : Type} (source : HeartbeatSource ρ τ) (options : SessionOptions)
    (around : ρ) (s : σ) : Except SessionError (TaskSession σ) × ρ × σ :=
  match options.validate with
  | .error error => (.error error, around, s)
  | .ok () =>
      match options.suppliedIdentity.resolve options.discovery source around with
      | (.error error, around) => (.error error, around, s)
      | (.ok identity, around) =>
          match fabric.newContext s with
          | (context, s) =>
              let (bound, s) := bind fabric options identity context s
              (bound, around, s)

/-- Bootstrap, and try again under a strategy as long as a failure may go away. -/
def connectWithRetry (fuel : Nat) (options : SessionOptions) (strategy : Backoff) (s : σ) :
    Option (Except SessionError (TaskSession σ) × Backoff × σ) :=
  retryWithin (bootstrap fabric options) fabric.sleep fuel strategy s

/-! ## Views -/

def endpoint (session : TaskSession σ) : Endpoint :=
  session.client.settings.endpoint

def envelope (session : TaskSession σ) : Envelope where
  identity := session.identity
  taskType := session.options.taskType
  taskParameters := session.options.taskParameters
  userInfo := session.options.userInfo

def commandEnvelope (session : TaskSession σ) (parameters : Json) : Json :=
  session.envelope.toJson parameters

/-! ## Replacing the client -/

def renew (session : TaskSession σ) (s : σ) : Except SessionError Unit × TaskSession σ × σ :=
  match session.client.lifecycle.renew fabric s with
  | (result, lifecycle, s) =>
      let session := { session with client := { session.client with lifecycle := lifecycle } }
      match result with
      | .ok _ => (.ok (), session, s)
      | .error error => (.error (.link error), session, s)

variable (watchers : Watchers σ)

def renewIfRequested (session : TaskSession σ) (s : σ) :
    Except SessionError Unit × TaskSession σ × σ :=
  match session.watcher with
  | none => (.ok (), session, s)
  | some watcher =>
      match watchers.takeRequest watcher s with
      | (true, s) => session.renew fabric s
      | (false, s) => (.ok (), session, s)

/-- Replace the client after a missing reply; a failure to do so is dropped. -/
def renewAfter (error : SessionError) (session : TaskSession σ) (s : σ) : TaskSession σ × σ :=
  if error.code = .noResponse then
    match session.renew fabric s with
    | (_, session, s) => (session, s)
  else (session, s)

/-! ## Commands -/

def checkReply (command : String) : Except LinkError String → Except SessionError String
  | .error error => .error (.link error)
  | .ok reply =>
      if reply.isEmpty then .error (.noResponse (excerpt command)) else .ok reply

def transmit (session : TaskSession σ) (fuel : Nat) (command : String)
    (timeout : Option Duration) (bits : UInt32) (s : σ) :
    Option (Except SessionError String × TaskSession σ × σ) :=
  let call : Call := { message := command.toUTF8, timeout := timeout, bits := bits }
  (session.client.call fabric fuel call s).map fun (result, client, s) =>
    let session := { session with client := client }
    match checkReply command result with
    | .ok reply => (.ok reply, session, s)
    | .error error =>
        let (session, s) := renewAfter fabric error session s
        (.error error, session, s)

/-- Send a command and return its reply as it is; the wait ends when watched bits are raised. -/
def executeRaw (session : TaskSession σ) (fuel : Nat) (command : String)
    (timeout : Option Duration) (bits : UInt32) (s : σ) :
    Option (Except SessionError String × TaskSession σ × σ) :=
  match session.renewIfRequested fabric watchers s with
  | (.error error, session, s) => some (.error error, session, s)
  | (.ok (), session, s) => transmit fabric session fuel command timeout bits s

def execute (session : TaskSession σ) (fuel : Nat) (parameters : Json)
    (timeout : Option Duration) (s : σ) :
    Option (Except SessionError Json × TaskSession σ × σ) :=
  let command := (session.commandEnvelope parameters).compact
  (session.executeRaw fabric watchers fuel command timeout 0 s).map fun (result, session, s) =>
    (result.bind readReply, session, s)

/-! ## Monitoring -/

def startMonitor (session : TaskSession σ) (s : σ) :
    Except SessionError Unit × TaskSession σ × σ :=
  if session.watcher.isSome then
    (.error (.invalidState "Heartbeat monitor already running"), session, s)
  else
    match watchers.start session.context session.options.heartbeatEndpoint
        session.options.socketOptions session.options.reinitializeTimeout s with
    | (.error error, s) => (.error error, session, s)
    | (.ok watcher, s) => (.ok (), { session with watcher := some watcher }, s)

def stopMonitor (session : TaskSession σ) (s : σ) : TaskSession σ × σ :=
  match session.watcher with
  | none => (session, s)
  | some watcher => ({ session with watcher := none }, watchers.stop watcher s)

def latestHeartbeat (session : TaskSession σ) (s : σ) : Option String :=
  session.watcher.bind (watchers.latest · s)

def close (session : TaskSession σ) (s : σ) : σ :=
  match session.stopMonitor watchers s with
  | (session, s) => (session.client.lifecycle.destroy fabric s).2

end TaskSession

end TaskLink
