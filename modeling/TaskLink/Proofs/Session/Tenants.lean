import Mathlib.Logic.Basic
import TaskLink.Messaging.Responder
import TaskLink.Proofs.Messaging.PortBooks
import TaskLink.Session.Beacon

/-!
# Tenants of ports

Beacons and servers are the roles that bind a port.  A beacon has a flag that
says whether it is to run, and a worker that holds its socket; the owner of a
beacon changes the one, and its worker acts on what it finds there.  Whatever
is done to a tenant, over a library that keeps a port book, flag and worker
agree afterwards, and its socket and the bindings change together.
-/

namespace TaskLink

/-! ## Beacons -/

namespace Beacon

/-- A beacon runs while it has a worker, and its worker has a socket. -/
inductive IsFormed (beacon : Beacon) : Prop where
  | idle (notRunning : beacon.running = false) (noWorker : beacon.worker = none)
  | live {publisher : Broadcaster} {inHand : Option ByteArray} {id : SocketId}
      (running : beacon.running = true) (works : beacon.worker = some ⟨publisher, inHand⟩)
      (holds : publisher.lifecycle.socket = some id)

/-- A beacon goes on with the same payload after some messages were counted. -/
structure Continues (before : Beacon) (emitted : Nat) (after : Beacon) : Prop where
  port : after.port = before.port
  options : after.options = before.options
  payload : after.payload = before.payload
  counted : after.published = before.published + .ofNat emitted

variable {beacon : Beacon}

theorem Continues.refl (beacon : Beacon) : beacon.Continues 0 beacon :=
  ⟨rfl, rfl, rfl, (UInt64.add_zero _).symm⟩

/-- One after the other, with a payload that was set in between. -/
theorem Continues.andThen {before middle after : Beacon} {one two : ByteArray}
    {emitted more : Nat} (first : (before.setPayload one).Continues emitted middle)
    (second : (middle.setPayload two).Continues more after) :
    (before.setPayload two).Continues (emitted + more) after where
  port := second.port.trans first.port
  options := second.options.trans first.options
  payload := second.payload
  counted := by
    have one : middle.published = before.published + .ofNat emitted := first.counted
    have two : after.published = middle.published + .ofNat more := second.counted
    rw [two, one, UInt64.ofNat_add, UInt64.add_assoc]
    rfl

theorem Continues.published_le {before after : Beacon} {payload : ByteArray} {emitted : Nat}
    (continues : (before.setPayload payload).Continues emitted after)
    (fits : before.published.toNat + emitted < UInt64.size) :
    before.published ≤ after.published := by
  have counted : after.published = before.published + .ofNat emitted := continues.counted
  rw [counted, UInt64.le_iff_toNat_le, UInt64.toNat_add, UInt64.toNat_ofNat']
  rw [Nat.add_mod_mod, Nat.mod_eq_of_lt fits]
  exact Nat.le_add_right _ _

variable {σ : Type} (fabric : Fabric σ)

def fresh (beacon : Beacon) : Lifecycle :=
  { role := .publisher, endpoint := .any beacon.port, options := beacon.options }

/-- What the start of an idle beacon with valid settings opens and hands to a thread. -/
theorem start_of_valid (notRunning : beacon.running = false)
    (valid : (ServerSettings.ofPort beacon.port beacon.options).validate = .ok ())
    (spawned : Except String Unit) (s : σ) :
    beacon.start fabric spawned s =
      match beacon.fresh.establish fabric beacon.context s with
      | (.error error, _, s) => (.error (.link error), beacon, s)
      | (.ok _, lifecycle, s) =>
          match spawned with
          | .ok () =>
              (.ok (), { beacon with running := true, worker := some ⟨⟨lifecycle⟩, none⟩ }, s)
          | .error reason =>
              (.error (.worker s!"heartbeat publisher: {reason}"), beacon,
                (lifecycle.destroy fabric s).2) := by
  obtain ⟨port, interval, payload, options, context, running, worker, published⟩ := beacon
  cases notRunning
  rw [start, Broadcaster.create, valid]
  rfl

theorem start_continues (beacon : Beacon) (spawned : Except String Unit) (s : σ) :
    beacon.Continues 0 (beacon.start fabric spawned s).2.1 := by
  have unchanged {after : Beacon} (port : after.port = beacon.port)
      (options : after.options = beacon.options) (payload : after.payload = beacon.payload)
      (published : after.published = beacon.published) : beacon.Continues 0 after :=
    ⟨port, options, payload, published.trans (UInt64.add_zero _).symm⟩
  unfold start
  split
  · exact .refl beacon
  · split
    · exact .refl beacon
    · split
      · exact .refl beacon
      · cases spawned <;> exact unchanged rfl rfl rfl rfl

theorem beginTick_continues (beacon : Beacon) (s : σ) :
    beacon.Continues 0 (beacon.beginTick fabric s).1 := by
  unfold beginTick
  split
  · split <;> exact ⟨rfl, rfl, rfl, (UInt64.add_zero _).symm⟩
  · exact .refl beacon

theorem endTick_continues (beacon : Beacon) (s : σ) :
    ∃ emitted ≤ 1, beacon.Continues emitted (beacon.endTick fabric s).1 := by
  unfold endTick
  split
  · dsimp only
    split
    · exact ⟨1, Nat.le_refl 1, rfl, rfl, rfl, rfl⟩
    · exact ⟨0, Nat.zero_le 1, rfl, rfl, rfl, (UInt64.add_zero _).symm⟩
  · exact ⟨0, Nat.zero_le 1, .refl beacon⟩

/-! ### The worker -/

def IsQuiet (beacon : Beacon) : Prop :=
  ∀ publisher message, beacon.worker ≠ some ⟨publisher, some message⟩

/-- Where nothing is in hand there is no tick to end. -/
theorem endTick_of_isQuiet (quiet : beacon.IsQuiet) (s : σ) :
    beacon.endTick fabric s = (beacon, s) := by
  unfold endTick
  split
  · next works => exact absurd works (quiet _ _)
  · rfl

theorem isQuiet_endTick (beacon : Beacon) (s : σ) : (beacon.endTick fabric s).1.IsQuiet := by
  unfold endTick
  split
  · dsimp only
    split <;> rintro publisher message ⟨⟩
  · next idle => exact fun publisher message works => idle publisher message works

/-- The worker ends its tick alike whether it is told to end or not. -/
theorem endTick_halt (beacon : Beacon) (s : σ) :
    beacon.halt.endTick fabric s = ((beacon.endTick fabric s).1.halt, (beacon.endTick fabric s).2) := by
  obtain ⟨port, interval, payload, options, context, running, worker, published⟩ := beacon
  rcases worker with _ | ⟨publisher, _ | message⟩
  · rfl
  · rfl
  · unfold endTick halt
    dsimp only
    split <;> rfl

/-- A beacon is stopped alike whether the worker has ended its tick before or not. -/
theorem stop_endTick (beacon : Beacon) (s : σ) :
    (beacon.endTick fabric s).1.stop fabric (beacon.endTick fabric s).2 = beacon.stop fabric s := by
  rw [stop, stop, endTick_halt, endTick_halt,
    endTick_of_isQuiet fabric (isQuiet_endTick fabric beacon s)]

/-- A worker that is to go on takes the payload in hand. -/
theorem beginTick_of_running (running : beacon.running = true) {publisher : Broadcaster}
    (works : beacon.worker = some ⟨publisher, none⟩) (s : σ) :
    beacon.beginTick fabric s =
      ({ beacon with worker := some ⟨publisher, some beacon.payload⟩ }, s) := by
  rw [beginTick, works]
  exact if_pos running

/-- A beacon that is told to end, with nothing in hand, gives up its worker. -/
theorem beginTick_of_halted (quiet : beacon.IsQuiet) (halted : beacon.running = false) (s : σ) :
    (beacon.beginTick fabric s).1 = { beacon with worker := none } := by
  obtain ⟨port, interval, payload, options, context, running, worker, published⟩ := beacon
  cases halted
  rcases worker with _ | ⟨publisher, _ | message⟩
  · rfl
  · rfl
  · exact absurd rfl (quiet publisher message)

/-- A beacon that was stopped does not run and has no worker. -/
theorem stop_fst (beacon : Beacon) (s : σ) :
    (beacon.stop fabric s).1 = { (beacon.endTick fabric s).1.halt with worker := none } := by
  have quiet : (beacon.endTick fabric s).1.halt.IsQuiet := isQuiet_endTick fabric beacon s
  rw [stop, endTick_halt]
  exact beginTick_of_halted fabric quiet rfl _

theorem stop_of_no_worker (halted : beacon.running = false) (noWorker : beacon.worker = none)
    (s : σ) : beacon.stop fabric s = (beacon, s) := by
  obtain ⟨port, interval, payload, options, context, running, worker, published⟩ := beacon
  cases halted
  cases noWorker
  rfl

theorem stop_of_idle_worker {publisher : Broadcaster}
    (works : beacon.worker = some ⟨publisher, none⟩) (s : σ) :
    beacon.stop fabric s =
      ({ beacon.halt with worker := none }, (publisher.lifecycle.destroy fabric s).2) := by
  obtain ⟨port, interval, payload, options, context, running, worker, published⟩ := beacon
  cases works
  rfl

theorem stop_stop (beacon : Beacon) (s : σ) :
    (beacon.stop fabric s).1.stop fabric (beacon.stop fabric s).2 = beacon.stop fabric s := by
  have stopped := stop_fst fabric beacon s
  exact stop_of_no_worker fabric (congrArg running stopped) (congrArg worker stopped) _

theorem stop_continues (beacon : Beacon) (s : σ) :
    ∃ emitted ≤ 1, beacon.Continues emitted (beacon.stop fabric s).1 := by
  obtain ⟨emitted, atMost, ended⟩ := endTick_continues fabric beacon s
  rw [stop_fst]
  exact ⟨emitted, atMost, ended.port, ended.options, ended.payload, ended.counted⟩

variable {fabric} {book : PortBook fabric} {s : σ} {publisher : Broadcaster}
  {message : ByteArray} {id : SocketId}

/-- What is in hand is given to the worker's socket, and counted. -/
theorem endTick_of_bound (intact : book.IsIntact s)
    (works : beacon.worker = some ⟨publisher, some message⟩)
    (holds : publisher.lifecycle.socket = some id) {endpoint : Endpoint}
    (isBound : book.bindings s id = some ⟨.publisher, endpoint⟩) :
    ∃ after, fabric.send id message false s = (.ok (), after) ∧
      beacon.endTick fabric s = ({ beacon with
        worker := some ⟨publisher, none⟩, published := beacon.published + 1 }, after) ∧
      book.IsIntact after ∧ book.bindings after = book.bindings s := by
  obtain ⟨after, sent, published, intactAfter, unchanged⟩ :=
    Broadcaster.publish_of_bound intact holds isBound message
  refine ⟨after, sent, ?_, intactAfter, unchanged⟩
  rw [endTick, works]
  dsimp only
  rw [published]

end Beacon

inductive Tenant where
  | publishing (beacon : Beacon)
  | serving (lifecycle : Lifecycle)

/--
What is done to a tenant, by its owner or by the worker of a beacon; a start
comes with a thread for the worker, or the reason why there is none.
-/
inductive TenantAction where
  | start (spawned : Except String Unit)
  | stop
  | setPayload (payload : ByteArray)
  | drop
  | beginTick
  | endTick

namespace TenantAction

def IsStart : TenantAction → Prop
  | start _ => True
  | stop | setPayload _ | drop | beginTick | endTick => False

def ticks : TenantAction → Nat
  | stop | drop | endTick => 1
  | start _ | setPayload _ | beginTick => 0

def payloadAfter (payload : ByteArray) : TenantAction → ByteArray
  | setPayload other => other
  | start _ | stop | drop | beginTick | endTick => payload

end TenantAction

namespace Tenant

/-! ## Views -/

def socket : Tenant → Option SocketId
  | publishing beacon => beacon.worker.bind (·.publisher.lifecycle.socket)
  | serving lifecycle => lifecycle.socket

def binding : Tenant → Binding
  | publishing beacon => ⟨.publisher, .any beacon.port⟩
  | serving lifecycle => ⟨lifecycle.role, lifecycle.endpoint⟩

def options : Tenant → SocketOptions
  | publishing beacon => beacon.options
  | serving lifecycle => lifecycle.options

def port (tenant : Tenant) : UInt16 :=
  tenant.binding.endpoint.port

/-- Flag, worker and socket of a beacon agree; a server has a role that binds, and a port. -/
def IsFormed : Tenant → Prop
  | publishing beacon => beacon.IsFormed
  | serving lifecycle => lifecycle.role.binds = true ∧ lifecycle.endpoint.port ≠ 0

/-- A tenant as it is created: a beacon that never ran, or a server with valid settings. -/
inductive IsNew : Tenant → Prop where
  | beacon (port : UInt16) (interval : Duration) (payload : ByteArray) (options : SocketOptions)
      (context : Option ContextId) :
      IsNew (publishing { port, interval, payload, options, context })
  | responder {settings : ServerSettings} {shared : Option ContextId} {server : Responder}
      (created : Responder.create settings shared = .ok server) : IsNew (serving server.lifecycle)
  | broadcaster {settings : ServerSettings} {shared : Option ContextId} {server : Broadcaster}
      (created : Broadcaster.create settings shared = .ok server) : IsNew (serving server.lifecycle)

/-! ## Operations -/

section Operations

variable {σ : Type} (fabric : Fabric σ)

def start (spawned : Except String Unit) : Tenant → σ → Except SessionError Unit × Tenant × σ
  | publishing beacon, s =>
      match beacon.start fabric spawned s with
      | (result, beacon, s) => (result, publishing beacon, s)
  | serving lifecycle, s =>
      match lifecycle.start fabric s with
      | (.ok _, lifecycle, s) => (.ok (), serving lifecycle, s)
      | (.error error, lifecycle, s) => (.error (.link error), serving lifecycle, s)

def setPayload (payload : ByteArray) : Tenant → Tenant
  | publishing beacon => publishing (beacon.setPayload payload)
  | serving lifecycle => serving lifecycle

def beginTick : Tenant → σ → Tenant × σ
  | publishing beacon, s =>
      match beacon.beginTick fabric s with
      | (beacon, s) => (publishing beacon, s)
  | serving lifecycle, s => (serving lifecycle, s)

def endTick : Tenant → σ → Tenant × σ
  | publishing beacon, s =>
      match beacon.endTick fabric s with
      | (beacon, s) => (publishing beacon, s)
  | serving lifecycle, s => (serving lifecycle, s)

def stop : Tenant → σ → Tenant × σ
  | publishing beacon, s =>
      match beacon.stop fabric s with
      | (beacon, s) => (publishing beacon, s)
  | serving lifecycle, s =>
      match lifecycle.destroy fabric s with
      | (lifecycle, s) => (serving lifecycle, s)

/-- What an action comes to: its result, the tenant unless it was dropped, and the surroundings. -/
def perform (tenant : Tenant) (s : σ) :
    TenantAction → Except SessionError Unit × Option Tenant × σ
  | .start spawned =>
      match tenant.start fabric spawned s with
      | (result, tenant, s) => (result, some tenant, s)
  | .stop =>
      match tenant.stop fabric s with
      | (tenant, s) => (.ok (), some tenant, s)
  | .setPayload payload => (.ok (), some (tenant.setPayload payload), s)
  | .drop =>
      match tenant.stop fabric s with
      | (_, s) => (.ok (), none, s)
  | .beginTick =>
      match tenant.beginTick fabric s with
      | (tenant, s) => (.ok (), some tenant, s)
  | .endTick =>
      match tenant.endTick fabric s with
      | (tenant, s) => (.ok (), some tenant, s)

end Operations

/-! ## What an operation changes -/

variable {σ : Type} {fabric : Fabric σ} {book : PortBook fabric} {tenant : Tenant} {s : σ}

/-- The socket of a tenant and the bindings changed together. -/
structure Moves (book : PortBook fabric) (before : Tenant) (s : σ) (after : Tenant) (next : σ) :
    Prop where
  binding : after.binding = before.binding
  options : after.options = before.options
  isFormed : after.IsFormed
  intact : book.IsIntact next
  rebinds : (book.bindings s).Rebinds (book.bindings next) before.binding before.socket after.socket

theorem Moves.refl (formed : tenant.IsFormed) (intact : book.IsIntact s) :
    Moves book tenant s tenant s :=
  ⟨rfl, rfl, formed, intact, .same tenant.socket rfl⟩

/-- A tenant that keeps its socket, while no binding changes, has moved as well. -/
theorem Moves.of_untouched {held : Tenant} {after : σ} (binding : held.binding = tenant.binding)
    (options : held.options = tenant.options) (formed : held.IsFormed)
    (intact : book.IsIntact after) (socket : held.socket = tenant.socket)
    (unchanged : book.bindings after = book.bindings s) : Moves book tenant s held after :=
  ⟨binding, options, formed, intact, by rw [socket]; exact .same tenant.socket unchanged⟩

theorem socket_publishing (beacon : Beacon) :
    (publishing beacon).socket = beacon.worker.bind (·.publisher.lifecycle.socket) := rfl

theorem socket_of_worker {beacon : Beacon} {publisher : Broadcaster} {inHand : Option ByteArray}
    (works : beacon.worker = some ⟨publisher, inHand⟩) :
    (publishing beacon).socket = publisher.lifecycle.socket := by
  rw [socket_publishing, works]
  rfl

theorem socket_of_no_worker {beacon : Beacon} (noWorker : beacon.worker = none) :
    (publishing beacon).socket = none := by
  rw [socket_publishing, noWorker]
  rfl

/-- A beacon that is formed runs exactly while it has a socket. -/
theorem running_iff {beacon : Beacon} (formed : beacon.IsFormed) :
    beacon.running = true ↔ (publishing beacon).socket ≠ none := by
  cases formed with
  | idle notRunning noWorker =>
      rw [notRunning, socket_of_no_worker noWorker]
      exact iff_of_false Bool.false_ne_true fun live => live rfl
  | live running works holds =>
      rw [running, socket_of_worker works, holds]
      exact iff_of_true rfl (Option.some_ne_none _)

theorem port_ne_zero_of_validate {settings : ServerSettings}
    (valid : settings.validate = .ok ()) : settings.endpoint.port ≠ 0 := by
  intro zero
  cases blank : allBlank settings.endpoint.host <;>
    simp [ServerSettings.validate, Endpoint.validate, zero, blank, bind, Except.bind] at valid

theorem IsNew.isFormed (isNew : tenant.IsNew) : tenant.IsFormed ∧ tenant.socket = none := by
  cases isNew with
  | beacon port interval payload options context => exact ⟨.idle rfl rfl, rfl⟩
  | @responder settings shared server created =>
      unfold Responder.create at created
      cases valid : settings.validate with
      | error error =>
          rw [valid] at created
          cases created
      | ok _ =>
          rw [valid] at created
          cases created
          exact ⟨⟨rfl, port_ne_zero_of_validate valid⟩, rfl⟩
  | @broadcaster settings shared server created =>
      unfold Broadcaster.create at created
      cases valid : settings.validate with
      | error error =>
          rw [valid] at created
          cases created
      | ok _ =>
          rw [valid] at created
          cases created
          exact ⟨⟨rfl, port_ne_zero_of_validate valid⟩, rfl⟩

/-! ## Starting -/

def runsAlready : Tenant → SessionError
  | publishing _ => .invalidState "Heartbeat publisher already running"
  | serving _ => .link .alreadyRunning

def flaw? (book : PortBook fabric) : Tenant → Option LinkError
  | publishing beacon =>
      match (ServerSettings.ofPort beacon.port beacon.options).validate with
      | .error error => some error
      | .ok () => (book.tuneFault? .publisher beacon.options).map .refused
  | serving lifecycle => (book.tuneFault? lifecycle.role lifecycle.options).map .refused

/-- What speaks against the start of an idle tenant: a flaw, or else another role on its port. -/
inductive Fault (book : PortBook fabric) (bindings : Bindings) (tenant : Tenant) :
    LinkError → Prop where
  | flawed {error : LinkError} (flaw : tenant.flaw? book = some error) :
      Fault book bindings tenant error
  | taken (flawless : tenant.flaw? book = none) (taken : bindings.IsTaken tenant.port) :
      Fault book bindings tenant
        (.bindFailed (tenant.binding.endpoint.bindAddress ++ ": " ++ "Address already in use"))

/-- Nothing speaks against the start of an idle tenant. -/
structure IsWelcome (book : PortBook fabric) (bindings : Bindings) (tenant : Tenant) : Prop where
  flawless : tenant.flaw? book = none
  free : ¬ bindings.IsTaken tenant.port

theorem Fault.not_isWelcome {bindings : Bindings} {error : LinkError}
    (fault : tenant.Fault book bindings error) : ¬ tenant.IsWelcome book bindings := by
  intro welcome
  cases fault with
  | flawed flaw => cases welcome.flawless.symm.trans flaw
  | taken _ taken => exact welcome.free taken

theorem Fault.of_refuses {bindings : Bindings} {error : LinkError}
    (tuned : tenant.flaw? book = (book.tuneFault? tenant.binding.role tenant.options).map .refused)
    (refuses : book.Refuses bindings tenant.binding.role tenant.binding.endpoint tenant.options
      error) : tenant.Fault book bindings error := by
  cases refuses with
  | untuned refused => exact .flawed (by rw [tuned, refused]; rfl)
  | taken accepted taken => exact .taken (by rw [tuned, accepted]; rfl) taken

theorem IsWelcome.of_permits {bindings : Bindings}
    (tuned : tenant.flaw? book = (book.tuneFault? tenant.binding.role tenant.options).map .refused)
    (permits : book.Permits bindings tenant.binding.role tenant.binding.endpoint tenant.options) :
    tenant.IsWelcome book bindings :=
  ⟨by rw [tuned, permits.tuned]; rfl, permits.free⟩

/-- How a start ends; a start that fails leaves a beacon and all bindings as they were. -/
inductive Starts (book : PortBook fabric) (tenant : Tenant) (s : σ)
    (spawned : Except String Unit) : Except SessionError Unit × Tenant × σ → Prop where
  | running (live : tenant.socket ≠ none) (moves : Moves book tenant s tenant s) :
      Starts book tenant s spawned (.error tenant.runsAlready, tenant, s)
  | refused {error : LinkError} {held : Tenant} {after : σ} (idle : tenant.socket = none)
      (fault : tenant.Fault book (book.bindings s) error)
      (kept : ∀ beacon, tenant = publishing beacon → held = tenant)
      (untouched : fabric.IsUntouched s after) (moves : Moves book tenant s held after) :
      Starts book tenant s spawned (.error (.link error), held, after)
  | unspawned {beacon : Beacon} {reason : String} {after : σ}
      (isBeacon : tenant = publishing beacon) (idle : tenant.socket = none)
      (welcome : tenant.IsWelcome book (book.bindings s)) (failed : spawned = .error reason)
      (unchanged : book.bindings after = book.bindings s) (moves : Moves book tenant s tenant after) :
      Starts book tenant s spawned
        (.error (.worker ("heartbeat publisher: " ++ reason)), tenant, after)
  | opened {held : Tenant} {after : σ} (idle : tenant.socket = none)
      (welcome : tenant.IsWelcome book (book.bindings s))
      (granted : ∀ beacon, tenant = publishing beacon → spawned = .ok ())
      (live : held.socket ≠ none) (moves : Moves book tenant s held after) :
      Starts book tenant s spawned (.ok (), held, after)

/-- A server that is held for the same role has the same binding, and is formed if that was. -/
theorem serving_of_isFor {lifecycle held : Lifecycle} (formed : (serving lifecycle).IsFormed)
    (isFor : held.IsFor lifecycle.role lifecycle.endpoint lifecycle.options) :
    (serving held).binding = (serving lifecycle).binding ∧
      (serving held).options = (serving lifecycle).options ∧ (serving held).IsFormed := by
  obtain ⟨role, endpoint, options⟩ := isFor
  refine ⟨congrArg₂ Binding.mk role endpoint, options, ?_⟩
  rw [IsFormed, role, endpoint]
  exact formed

theorem serving_starts {lifecycle : Lifecycle} (formed : (serving lifecycle).IsFormed)
    (intact : book.IsIntact s) (spawned : Except String Unit) :
    Starts book (serving lifecycle) s spawned ((serving lifecycle).start fabric spawned s) := by
  by_cases idle : lifecycle.socket = none
  · have notLive : lifecycle.isLive ≠ true := by
      rw [Lifecycle.isLive, idle]
      exact Bool.false_ne_true
    obtain ⟨begun, untouched, same, enters⟩ :=
      Lifecycle.establish_enters lifecycle intact formed.1 formed.2 idle lifecycle.shared
    rw [start, Lifecycle.start, if_neg notLive]
    generalize lifecycle.establish fabric lifecycle.shared s = result at enters ⊢
    cases enters with
    | @refused error held refuses isFor empty intactAfter =>
        obtain ⟨binding, options, formedAfter⟩ := serving_of_isFor formed isFor
        rw [same] at refuses
        exact .refused idle (.of_refuses rfl refuses) (by rintro _ ⟨⟩) untouched
          (.of_untouched binding options formedAfter intactAfter (empty.trans idle.symm) same)
    | @opened id held after permits isFor holds intactAfter rebinds =>
        obtain ⟨binding, options, formedAfter⟩ := serving_of_isFor formed isFor
        have live : (serving held).socket ≠ none := by
          rw [socket, holds]
          exact Option.some_ne_none id
        rw [same] at permits rebinds
        refine .opened idle (.of_permits rfl permits) (by rintro _ ⟨⟩) live
          ⟨binding, options, formedAfter, intactAfter, ?_⟩
        rw [socket, socket, idle, holds]
        exact rebinds
  · have live : lifecycle.isLive = true := Option.isSome_iff_ne_none.mpr idle
    rw [start, lifecycle.start_of_isLive fabric s live]
    exact .running idle (.refl formed intact)

theorem publishing_starts {beacon : Beacon} (formed : beacon.IsFormed) (intact : book.IsIntact s)
    (spawned : Except String Unit) :
    Starts book (publishing beacon) s spawned ((publishing beacon).start fabric spawned s) := by
  have stays : Moves book (publishing beacon) s (publishing beacon) s := .refl formed intact
  cases formed with
  | live running works holds =>
      have runs : beacon.isRunning = true := running
      have live : (publishing beacon).socket ≠ none := by
        rw [socket_of_worker works, holds]
        exact Option.some_ne_none _
      rw [start, Beacon.start, if_pos runs]
      exact .running live stays
  | idle notRunning noWorker =>
      have idle : (publishing beacon).socket = none := socket_of_no_worker noWorker
      have formed : (publishing beacon).IsFormed := .idle notRunning noWorker
      cases valid : (ServerSettings.ofPort beacon.port beacon.options).validate with
      | error error =>
          have flaw : (publishing beacon).flaw? book = some error := by
            rw [flaw?, valid]
          have notRuns : beacon.isRunning ≠ true := by
            rw [Beacon.isRunning, notRunning]
            exact Bool.false_ne_true
          rw [start, Beacon.start, if_neg notRuns, Broadcaster.create, valid]
          exact .refused idle (.flawed flaw) (fun _ _ => rfl) (.inl rfl) stays
      | ok _ =>
          have tuned : (publishing beacon).flaw? book =
              (book.tuneFault? .publisher beacon.options).map .refused := by
            rw [flaw?, valid]
          obtain ⟨begun, untouched, same, enters⟩ :=
            Lifecycle.establish_enters beacon.fresh intact rfl (port_ne_zero_of_validate valid) rfl
              beacon.context
          rw [start, Beacon.start_of_valid fabric notRunning valid]
          generalize beacon.fresh.establish fabric beacon.context s = result at enters ⊢
          cases enters with
          | refused refuses isFor empty intactAfter =>
              rw [same] at refuses
              exact .refused idle (.of_refuses tuned refuses) (fun _ _ => rfl) untouched
                (.of_untouched rfl rfl formed intactAfter rfl same)
          | @opened id held after permits isFor holds intactAfter rebinds =>
              rw [same] at permits rebinds
              have welcome : (publishing beacon).IsWelcome book (book.bindings s) :=
                .of_permits tuned permits
              cases spawned with
              | ok _ =>
                  refine .opened idle welcome (fun _ _ => rfl) ?_
                    ⟨rfl, rfl, .live rfl rfl holds, intactAfter, ?_⟩
                  · rw [socket_of_worker rfl, holds]
                    exact Option.some_ne_none id
                  · rw [idle, socket_of_worker rfl, holds]
                    exact rebinds
              | error reason =>
                  obtain ⟨undoes, intactLast⟩ :=
                    held.destroy_rebinds intactAfter ⟨.publisher, .any beacon.port⟩
                  rw [holds] at undoes
                  -- the port was bound for a moment, while a thread was asked for
                  have unchanged := rebinds.undone undoes
                  exact .unspawned rfl idle welcome rfl unchanged
                    (.of_untouched rfl rfl formed intactLast rfl unchanged)

theorem start_starts (formed : tenant.IsFormed) (intact : book.IsIntact s)
    (spawned : Except String Unit) :
    Starts book tenant s spawned (tenant.start fabric spawned s) := by
  cases tenant with
  | publishing beacon => exact publishing_starts formed intact spawned
  | serving lifecycle => exact serving_starts formed intact spawned

/-! ## Ticks -/

/-- The socket that a tenant holds is bound for it. -/
def Occupies (book : PortBook fabric) (tenant : Tenant) (s : σ) : Prop :=
  ∀ id, tenant.socket = some id → book.bindings s id = some tenant.binding

/-- How a tick ends: there was none, or its message went to the tenant's socket and was counted. -/
inductive EndsTick (book : PortBook fabric) (s : σ) : Tenant → Tenant × σ → Prop where
  | none {tenant : Tenant}
      (nothing : ∀ beacon, tenant = publishing beacon → beacon.IsQuiet)
      (moves : Moves book tenant s tenant s) :
      EndsTick book s tenant (tenant, s)
  | published {beacon : Beacon} {publisher : Broadcaster} {message : ByteArray} {id : SocketId}
      {after : σ} (works : beacon.worker = some ⟨publisher, some message⟩)
      (holds : publisher.lifecycle.socket = some id)
      (isBound : book.bindings s id = some ⟨.publisher, .any beacon.port⟩)
      (sent : fabric.send id message false s = (.ok (), after))
      (unchanged : book.bindings after = book.bindings s)
      (moves : Moves book (publishing beacon) s (publishing { beacon with
        worker := some ⟨publisher, none⟩, published := beacon.published + 1 }) after) :
      EndsTick book s (publishing beacon) (publishing { beacon with
        worker := some ⟨publisher, none⟩, published := beacon.published + 1 }, after)

theorem endTick_ends (formed : tenant.IsFormed) (intact : book.IsIntact s)
    (occupies : tenant.Occupies book s) : EndsTick book s tenant (tenant.endTick fabric s) := by
  cases tenant with
  | serving lifecycle => exact .none (by rintro _ ⟨⟩) (.refl formed intact)
  | publishing beacon =>
      have still (quiet : beacon.IsQuiet) :
          EndsTick book s (publishing beacon) ((publishing beacon).endTick fabric s) := by
        rw [endTick, beacon.endTick_of_isQuiet fabric quiet]
        exact .none (by rintro _ ⟨⟩; exact quiet) (.refl formed intact)
      cases formed with
      | idle notRunning noWorker =>
          apply still
          intro publisher message works
          cases noWorker.symm.trans works
      | @live publisher inHand id running works holds =>
          cases inHand with
          | none =>
              apply still
              intro publisher message other
              cases works.symm.trans other
          | some message =>
              have held := socket_of_worker works
              have isBound := occupies id (held.trans holds)
              obtain ⟨after, sent, ended, intactAfter, unchanged⟩ :=
                Beacon.endTick_of_bound intact works holds isBound
              rw [endTick, ended]
              exact .published works holds isBound sent unchanged
                (.of_untouched rfl rfl (.live running rfl holds) intactAfter held.symm unchanged)

theorem beginTick_moves (formed : tenant.IsFormed) (intact : book.IsIntact s) :
    Moves book tenant s (tenant.beginTick fabric s).1 (tenant.beginTick fabric s).2 ∧
      (tenant.beginTick fabric s).1.socket = tenant.socket := by
  cases tenant with
  | serving lifecycle => exact ⟨.refl formed intact, rfl⟩
  | publishing beacon =>
      have still (same : beacon.beginTick fabric s = (beacon, s)) :
          Moves book (publishing beacon) s ((publishing beacon).beginTick fabric s).1
              ((publishing beacon).beginTick fabric s).2 ∧
            ((publishing beacon).beginTick fabric s).1.socket = (publishing beacon).socket := by
        rw [beginTick, same]
        exact ⟨.refl formed intact, rfl⟩
      cases formed with
      | idle notRunning noWorker =>
          apply still
          rw [Beacon.beginTick, noWorker]
      | @live publisher inHand id running works holds =>
          cases inHand with
          | some message =>
              apply still
              rw [Beacon.beginTick, works]
          | none =>
              have socket : (publishing { beacon with
                  worker := some ⟨publisher, some beacon.payload⟩ }).socket =
                  (publishing beacon).socket := (socket_of_worker works).symm
              rw [beginTick, Beacon.beginTick_of_running fabric running works]
              exact ⟨.of_untouched rfl rfl (.live running rfl holds) intact socket rfl, socket⟩

/-! ## Stopping -/

theorem stop_publishing (fabric : Fabric σ) (beacon : Beacon) (s : σ) :
    (publishing beacon).stop fabric s =
      (publishing (beacon.stop fabric s).1, (beacon.stop fabric s).2) := rfl

theorem stop_serving (fabric : Fabric σ) (lifecycle : Lifecycle) (s : σ) :
    (serving lifecycle).stop fabric s =
      (serving (lifecycle.destroy fabric s).1, (lifecycle.destroy fabric s).2) := rfl

/-- A tick that is ended before is not ended again. -/
theorem stop_endTick (fabric : Fabric σ) (tenant : Tenant) (s : σ) :
    (tenant.endTick fabric s).1.stop fabric (tenant.endTick fabric s).2 = tenant.stop fabric s := by
  cases tenant with
  | serving lifecycle => rfl
  | publishing beacon =>
      have ended : (publishing beacon).endTick fabric s =
          (publishing (beacon.endTick fabric s).1, (beacon.endTick fabric s).2) := rfl
      rw [ended, stop_publishing, stop_publishing, beacon.stop_endTick fabric s]

/-- A tenant with nothing in hand gives up its port when it is stopped. -/
theorem stop_moves_of_quiet (formed : tenant.IsFormed) (intact : book.IsIntact s)
    (quiet : ∀ beacon, tenant = publishing beacon → beacon.IsQuiet) :
    Moves book tenant s (tenant.stop fabric s).1 (tenant.stop fabric s).2 ∧
      (tenant.stop fabric s).1.socket = none := by
  cases tenant with
  | serving lifecycle =>
      obtain ⟨rebinds, intactAfter⟩ :=
        lifecycle.destroy_rebinds intact (serving lifecycle).binding
      rw [stop_serving, Lifecycle.destroy_fst]
      exact ⟨⟨rfl, rfl, formed, intactAfter, rebinds⟩, rfl⟩
  | publishing beacon =>
      have formedBefore := formed
      cases formed with
      | idle notRunning noWorker =>
          rw [stop, beacon.stop_of_no_worker fabric notRunning noWorker]
          exact ⟨.refl formedBefore intact, socket_of_no_worker noWorker⟩
      | @live publisher inHand id running works holds =>
          cases inHand with
          | some message => exact absurd works (quiet beacon rfl publisher message)
          | none =>
              obtain ⟨rebinds, intactAfter⟩ :=
                publisher.lifecycle.destroy_rebinds intact (publishing beacon).binding
              rw [stop, beacon.stop_of_idle_worker fabric works]
              refine ⟨⟨rfl, rfl, .idle rfl rfl, intactAfter, ?_⟩, rfl⟩
              rw [socket_of_worker works]
              exact rebinds

/-- A tenant that is stopped gives up its port, once its worker has ended its tick. -/
theorem stop_moves (formed : tenant.IsFormed) (intact : book.IsIntact s)
    (occupies : tenant.Occupies book s) :
    Moves book tenant s (tenant.stop fabric s).1 (tenant.stop fabric s).2 ∧
      (tenant.stop fabric s).1.socket = none := by
  -- to stop a tenant is to end its tick and then to stop it, with nothing in hand any more
  have ends := endTick_ends formed intact occupies
  rw [← stop_endTick]
  generalize tenant.endTick fabric s = ended at ends ⊢
  cases ends with
  | none nothing moves => exact stop_moves_of_quiet formed intact nothing
  | @published beacon publisher message id middle works holds isBound sent unchanged moves =>
      obtain ⟨released, empty⟩ := stop_moves_of_quiet moves.isFormed moves.intact
        (by rintro _ ⟨⟩ publisher message ⟨⟩)
      refine ⟨⟨released.binding, released.options, released.isFormed, released.intact, ?_⟩, empty⟩
      have rebinds := released.rebinds
      rw [unchanged] at rebinds
      rwa [socket_of_worker works]

theorem stop_stop (fabric : Fabric σ) (tenant : Tenant) (s : σ) :
    (tenant.stop fabric s).1.stop fabric (tenant.stop fabric s).2 = tenant.stop fabric s := by
  cases tenant with
  | serving lifecycle => rw [stop_serving, stop_serving, lifecycle.destroy_destroy fabric s]
  | publishing beacon => rw [stop_publishing, stop_publishing, beacon.stop_stop fabric s]

/-! ## Actions -/

theorem setPayload_moves (payload : ByteArray) (formed : tenant.IsFormed)
    (intact : book.IsIntact s) :
    Moves book tenant s (tenant.setPayload payload) s ∧
      (tenant.setPayload payload).socket = tenant.socket := by
  cases tenant with
  | serving lifecycle => exact ⟨.refl formed intact, rfl⟩
  | publishing beacon =>
      have formedAfter : (beacon.setPayload payload).IsFormed := by
        cases formed with
        | idle notRunning noWorker => exact .idle notRunning noWorker
        | live running works holds => exact .live running works holds
      exact ⟨.of_untouched rfl rfl formedAfter intact rfl rfl, rfl⟩

/-- Whatever is done to a tenant, its socket and the bindings change together. -/
theorem perform_moves (formed : tenant.IsFormed) (intact : book.IsIntact s)
    (occupies : tenant.Occupies book s) (action : TenantAction) :
    ∃ after, Moves book tenant s after (tenant.perform fabric s action).2.2 ∧
      ((tenant.perform fabric s action).2.1 = some after ∨
        (tenant.perform fabric s action).2.1 = none ∧ after.socket = none) ∧
      (¬ action.IsStart → after.socket = tenant.socket ∨ after.socket = none) := by
  cases action with
  | start spawned =>
      have starts := start_starts formed intact spawned
      refine ⟨(tenant.start fabric spawned s).2.1, ?_, .inl rfl, fun other => absurd trivial other⟩
      change Moves book tenant s (tenant.start fabric spawned s).2.1
        (tenant.start fabric spawned s).2.2
      generalize tenant.start fabric spawned s = result at starts ⊢
      cases starts <;> assumption
  | stop =>
      obtain ⟨moves, empty⟩ := stop_moves formed intact occupies
      exact ⟨_, moves, .inl rfl, fun _ => .inr empty⟩
  | setPayload payload =>
      obtain ⟨moves, same⟩ := setPayload_moves payload formed intact
      exact ⟨_, moves, .inl rfl, fun _ => .inl same⟩
  | drop =>
      obtain ⟨moves, empty⟩ := stop_moves formed intact occupies
      exact ⟨_, moves, .inr ⟨rfl, empty⟩, fun _ => .inr empty⟩
  | beginTick =>
      obtain ⟨moves, same⟩ := beginTick_moves formed intact
      exact ⟨_, moves, .inl rfl, fun _ => .inl same⟩
  | endTick =>
      have ends := endTick_ends formed intact occupies
      refine ⟨(tenant.endTick fabric s).1, ?_, .inl rfl, fun _ => .inl ?_⟩
      · change Moves book tenant s (tenant.endTick fabric s).1 (tenant.endTick fabric s).2
        generalize tenant.endTick fabric s = result at ends ⊢
        cases ends <;> assumption
      · generalize tenant.endTick fabric s = result at ends ⊢
        cases ends with
        | none nothing moves => rfl
        | published works holds isBound sent unchanged moves => exact (socket_of_worker works).symm

/-! ## Payloads and messages in hand -/

/-- A beacon stays the beacon that it is until it is dropped, and counts each of its ticks once. -/
theorem perform_publishing (fabric : Fabric σ) (beacon : Beacon) (s : σ) (action : TenantAction) :
    ((publishing beacon).perform fabric s action).2.1 = none ∧ action = .drop ∨
    ∃ after, ((publishing beacon).perform fabric s action).2.1 = some (publishing after) ∧
      ∃ emitted ≤ action.ticks,
        (beacon.setPayload (action.payloadAfter beacon.payload)).Continues emitted after := by
  cases action with
  | start spawned =>
      exact .inr ⟨_, rfl, 0, Nat.le_refl 0, beacon.start_continues fabric spawned s⟩
  | setPayload payload => exact .inr ⟨_, rfl, 0, Nat.le_refl 0, .refl _⟩
  | drop => exact .inl ⟨rfl, rfl⟩
  | beginTick => exact .inr ⟨_, rfl, 0, Nat.le_refl 0, beacon.beginTick_continues fabric s⟩
  | endTick =>
      obtain ⟨emitted, atMost, continues⟩ := beacon.endTick_continues fabric s
      exact .inr ⟨_, rfl, emitted, atMost, continues⟩
  | stop =>
      obtain ⟨emitted, atMost, continues⟩ := beacon.stop_continues fabric s
      exact .inr ⟨_, rfl, emitted, atMost, continues⟩

theorem perform_inHand (fabric : Fabric σ) {beacon : Beacon} {publisher : Broadcaster}
    {message : ByteArray} (running : beacon.running = true)
    (works : beacon.worker = some ⟨publisher, some message⟩) (s : σ) {action : TenantAction}
    (goesOn : action.ticks = 0) :
    ∃ after, ((publishing beacon).perform fabric s action).2.1 = some (publishing after) ∧
      after.running = true ∧ after.worker = some ⟨publisher, some message⟩ := by
  cases action with
  | start spawned =>
      have again : beacon.start fabric spawned s =
          (.error (.invalidState "Heartbeat publisher already running"), beacon, s) := by
        rw [Beacon.start]
        exact if_pos running
      refine ⟨beacon, ?_, running, works⟩
      rw [perform, start, again]
  | setPayload payload => exact ⟨beacon.setPayload payload, rfl, running, works⟩
  | beginTick =>
      have busy : beacon.beginTick fabric s = (beacon, s) := by
        rw [Beacon.beginTick, works]
      refine ⟨beacon, ?_, running, works⟩
      rw [perform, beginTick, busy]
  | stop | drop | endTick => cases goesOn

end Tenant

end TaskLink
