import TaskLink.Messaging.Broadcaster
import TaskLink.Proofs.Messaging.Ownership

/-!
# Port books

What roles that bind ports rely on of a messaging library.  A port book tells
which sockets are bound and where.  A role is bound to its port unless its
options are refused or another one is bound there, a socket that is closed
gives its port back, and to publish changes no binding.
-/

namespace TaskLink

structure Binding where
  role : SocketRole
  endpoint : Endpoint
  deriving DecidableEq

abbrev Bindings := SocketId → Option Binding

namespace Bindings

variable {bindings before middle after : Bindings} {port : UInt16}

def IsTaken (bindings : Bindings) (port : UInt16) : Prop :=
  ∃ id binding, bindings id = some binding ∧ binding.endpoint.port = port

/--
What became of the bindings when a role went from one socket to another: they
are the same, or the role has bound its free port, or it has given it up.
-/
inductive Rebinds (before after : Bindings) (binding : Binding) :
    Option SocketId → Option SocketId → Prop where
  | same (held : Option SocketId) (unchanged : after = before) :
      Rebinds before after binding held held
  | bound (id : SocketId) (fresh : before id = none)
      (free : ¬ before.IsTaken binding.endpoint.port)
      (added : ∀ key, after key = if key = id then some binding else before key) :
      Rebinds before after binding none (some id)
  | freed (id : SocketId) (removed : ∀ key, after key = if key = id then none else before key) :
      Rebinds before after binding (some id) none

/-- A socket that is bound was bound before, or a role without one has just got it. -/
theorem Rebinds.cases_of_bound {binding other : Binding} {held holds : Option SocketId}
    (rebinds : Rebinds before after binding held holds) {key : SocketId}
    (isBound : after key = some other) :
    before key = some other ∨ held = none ∧ holds = some key ∧ other = binding := by
  cases rebinds with
  | same _ unchanged =>
      rw [unchanged] at isBound
      exact .inl isBound
  | bound id fresh free added =>
      rw [added] at isBound
      split at isBound
      next same =>
        cases isBound
        exact .inr ⟨rfl, congrArg some same.symm, rfl⟩
      next => exact .inl isBound
  | freed id removed =>
      rw [removed] at isBound
      split at isBound
      next => cases isBound
      next => exact .inl isBound

/-- A socket that was bound and given up at once leaves the bindings as they were. -/
theorem Rebinds.undone {binding : Binding} {id : SocketId}
    (rebinds : Rebinds before middle binding none (some id))
    (undoes : Rebinds middle after binding (some id) none) : after = before := by
  cases rebinds with
  | bound _ fresh free added =>
      cases undoes with
      | freed _ removed =>
          funext key
          rw [removed]
          by_cases same : key = id
          · rw [if_pos same, same, fresh]
          · rw [if_neg same, added, if_neg same]

end Bindings

variable {σ : Type} {fabric : Fabric σ}

/-- Nothing was done but to create a context, perhaps. -/
def Fabric.IsUntouched (fabric : Fabric σ) (s after : σ) : Prop :=
  after = s ∨ after = (fabric.newContext s).2

/-- The bindings in each state of a library, and the laws of binding and of giving up a port. -/
structure PortBook (fabric : Fabric σ) where
  bindings : σ → Bindings
  /-- No context was terminated, and publishers were only given whole messages. -/
  IsIntact : σ → Prop
  /-- Why sockets of a role are not tuned like this. -/
  tuneFault? : SocketRole → SocketOptions → Option SocketFault
  newContext : ∀ {s}, IsIntact s →
    IsIntact (fabric.newContext s).2 ∧ bindings (fabric.newContext s).2 = bindings s
  untuned : ∀ {s role endpoint options fault} (context), IsIntact s → role.binds = true →
    tuneFault? role options = some fault →
    fabric.openSocket context role endpoint options s = (.error (.tune fault), s)
  taken : ∀ {s role endpoint options} (context), IsIntact s → role.binds = true →
    endpoint.port ≠ 0 → tuneFault? role options = none → (bindings s).IsTaken endpoint.port →
    fabric.openSocket context role endpoint options s = (.error (.attach .addressInUse), s)
  opened : ∀ {s role endpoint options} (context), IsIntact s → role.binds = true →
    endpoint.port ≠ 0 → tuneFault? role options = none → ¬ (bindings s).IsTaken endpoint.port →
    ∃ id after, fabric.openSocket context role endpoint options s = (.ok id, after) ∧
      IsIntact after ∧ (bindings s).Rebinds (bindings after) ⟨role, endpoint⟩ none (some id)
  closed : ∀ {s} (id), IsIntact s → IsIntact (fabric.closeSocket id s) ∧
    ∀ key, bindings (fabric.closeSocket id s) key = if key = id then none else bindings s key
  sent : ∀ {s id endpoint} (message), IsIntact s → bindings s id = some ⟨.publisher, endpoint⟩ →
    ∃ after, fabric.send id message false s = (.ok (), after) ∧
      IsIntact after ∧ bindings after = bindings s

namespace PortBook

/-- What speaks against binding a role: its options, or else another role on its port. -/
inductive Refuses (book : PortBook fabric) (bindings : Bindings) (role : SocketRole)
    (endpoint : Endpoint) (options : SocketOptions) : LinkError → Prop where
  | untuned {fault : SocketFault} (refused : book.tuneFault? role options = some fault) :
      Refuses book bindings role endpoint options (.refused fault)
  | taken (tuned : book.tuneFault? role options = none) (taken : bindings.IsTaken endpoint.port) :
      Refuses book bindings role endpoint options
        (.bindFailed (endpoint.bindAddress ++ ": " ++ "Address already in use"))

structure Permits (book : PortBook fabric) (bindings : Bindings) (role : SocketRole)
    (endpoint : Endpoint) (options : SocketOptions) : Prop where
  tuned : book.tuneFault? role options = none
  free : ¬ bindings.IsTaken endpoint.port

end PortBook

namespace Lifecycle

variable {lifecycle : Lifecycle} {s : σ} {book : PortBook fabric}

theorem openError_attach (binds : lifecycle.role.binds = true) (fault : SocketFault) :
    lifecycle.openError (.attach fault) =
      .bindFailed (lifecycle.endpoint.bindAddress ++ ": " ++ fault.message) := by
  rw [openError, if_pos binds, address, if_pos binds]
  rfl

/-- How a binding role opens its socket; if it does not, nothing was done. -/
inductive Enters (book : PortBook fabric) (s : σ) (role : SocketRole) (endpoint : Endpoint)
    (options : SocketOptions) : Except LinkError SocketId × Lifecycle × σ → Prop where
  | refused {error : LinkError} {held : Lifecycle}
      (refuses : book.Refuses (book.bindings s) role endpoint options error)
      (isFor : held.IsFor role endpoint options) (empty : held.socket = none)
      (intact : book.IsIntact s) :
      Enters book s role endpoint options (.error error, held, s)
  | opened {id : SocketId} {held : Lifecycle} {after : σ}
      (permits : book.Permits (book.bindings s) role endpoint options)
      (isFor : held.IsFor role endpoint options) (holds : held.socket = some id)
      (intact : book.IsIntact after)
      (rebinds : (book.bindings s).Rebinds (book.bindings after) ⟨role, endpoint⟩ none (some id)) :
      Enters book s role endpoint options (.ok id, held, after)

theorem openOn_enters (lifecycle : Lifecycle) (intact : book.IsIntact s)
    (binds : lifecycle.role.binds = true) (port : lifecycle.endpoint.port ≠ 0)
    (empty : lifecycle.socket = none) (context : ContextId) :
    Enters book s lifecycle.role lifecycle.endpoint lifecycle.options
      (lifecycle.openOn fabric context s) := by
  unfold openOn
  cases tuned : book.tuneFault? lifecycle.role lifecycle.options with
  | some fault =>
      rw [book.untuned context intact binds tuned]
      exact .refused (.untuned tuned) ⟨rfl, rfl, rfl⟩ empty intact
  | none =>
      by_cases taken : (book.bindings s).IsTaken lifecycle.endpoint.port
      · rw [book.taken context intact binds port tuned taken]
        dsimp only
        rw [openError_attach binds]
        exact .refused (.taken tuned taken) ⟨rfl, rfl, rfl⟩ empty intact
      · obtain ⟨id, after, opening, intactAfter, rebinds⟩ :=
          book.opened context intact binds port tuned taken
        rw [opening]
        exact .opened ⟨tuned, taken⟩ ⟨rfl, rfl, rfl⟩ rfl intactAfter rebinds

/-- An idle binding role that is initialized creates a context, perhaps, and opens its socket. -/
theorem establish_enters (lifecycle : Lifecycle) (intact : book.IsIntact s)
    (binds : lifecycle.role.binds = true) (port : lifecycle.endpoint.port ≠ 0)
    (empty : lifecycle.socket = none) (context : Option ContextId) :
    ∃ begun, fabric.IsUntouched s begun ∧ book.bindings begun = book.bindings s ∧
      Enters book begun lifecycle.role lifecycle.endpoint lifecycle.options
        (lifecycle.establish fabric context s) := by
  have closed : lifecycle.close fabric s = (lifecycle, s) := by
    rw [close, empty]
  rw [establish_eq, closed]
  cases context with
  | some context =>
      let borrowing : Lifecycle :=
        { lifecycle with socket := none, context := some context, ownership := .borrowed }
      exact ⟨s, .inl rfl, rfl, openOn_enters borrowing intact binds port rfl context⟩
  | none =>
      let fresh := fabric.newContext s
      let owning : Lifecycle :=
        { lifecycle with socket := none, context := some fresh.1, ownership := .owned }
      obtain ⟨freshIntact, unchanged⟩ := book.newContext intact
      exact ⟨fresh.2, .inr rfl, unchanged, openOn_enters owning freshIntact binds port rfl fresh.1⟩

/-- A role that is destroyed gives up the port that it holds. -/
theorem destroy_rebinds (lifecycle : Lifecycle) (intact : book.IsIntact s) (binding : Binding) :
    (book.bindings s).Rebinds (book.bindings (lifecycle.destroy fabric s).2) binding
        lifecycle.socket none ∧
      book.IsIntact (lifecycle.destroy fabric s).2 := by
  rw [destroy_snd, close]
  cases lifecycle.socket with
  | none => exact ⟨.same none rfl, intact⟩
  | some id =>
      obtain ⟨intactAfter, removed⟩ := book.closed id intact
      exact ⟨.freed id removed, intactAfter⟩

end Lifecycle

/-- A message of a bound publisher is given to its socket as it is. -/
theorem Broadcaster.publish_of_bound {book : PortBook fabric} {publisher : Broadcaster}
    {s : σ} {id : SocketId} {endpoint : Endpoint} (intact : book.IsIntact s)
    (holds : publisher.lifecycle.socket = some id)
    (isBound : book.bindings s id = some ⟨.publisher, endpoint⟩) (message : ByteArray) :
    ∃ after, fabric.send id message false s = (.ok (), after) ∧
      publisher.publish fabric message s = (.ok true, after) ∧
      book.IsIntact after ∧ book.bindings after = book.bindings s := by
  obtain ⟨after, sent, intactAfter, unchanged⟩ := book.sent message intact isBound
  refine ⟨after, sent, ?_, intactAfter, unchanged⟩
  rw [publish, Lifecycle.sending, Lifecycle.live, holds]
  dsimp only
  rw [sent]

end TaskLink
