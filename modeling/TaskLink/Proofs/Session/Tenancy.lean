import Mathlib.Logic.Function.Basic
import TaskLink.Proofs.Session.Tenants

/-!
# Beacons among other roles

Any number of beacons and servers bind ports of one machine, over a library that
keeps a port book.  Whatever is done
to them, and in whatever order, each bound socket belongs to one of them, no
two are bound to the same port, and a beacon runs exactly while it holds its
port.
-/

namespace TaskLink

/-- Roles that bind ports, and the state of the library that they share. -/
structure Tenancy {σ : Type} (fabric : Fabric σ) where
  state : σ
  tenants : Nat → Option Tenant

namespace Tenancy

variable {σ : Type} {fabric : Fabric σ}

/-! ## Actions -/

def replace (tenancy : Tenancy fabric) (key : Nat) (left : Option Tenant) (next : σ) :
    Tenancy fabric where
  state := next
  tenants := Function.update tenancy.tenants key left

def perform (tenancy : Tenancy fabric) (key : Nat) (action : TenantAction) :
    Except SessionError Unit × Tenancy fabric :=
  match tenancy.tenants key with
  | none => (.ok (), tenancy)
  | some tenant =>
      match tenant.perform fabric tenancy.state action with
      | (result, left, next) => (result, tenancy.replace key left next)

def run (tenancy : Tenancy fabric) (actions : List (Nat × TenantAction)) : Tenancy fabric :=
  actions.foldl (fun tenancy action => (tenancy.perform action.1 action.2).2) tenancy

def socketOf (tenancy : Tenancy fabric) (key : Nat) : Option SocketId :=
  (tenancy.tenants key).bind Tenant.socket

/-- The role under a key has a socket that is bound for it to a port. -/
def HoldsPort (tenancy : Tenancy fabric) (book : PortBook fabric) (key : Nat) (port : UInt16) :
    Prop :=
  ∃ tenant id, tenancy.tenants key = some tenant ∧ tenant.socket = some id ∧
    book.bindings tenancy.state id = some tenant.binding ∧ tenant.port = port

/-! ## Invariant -/

/-- Each bound socket belongs to one role, and each port is bound once at most. -/
structure IsSound (tenancy : Tenancy fabric) (book : PortBook fabric) : Prop where
  intact : book.IsIntact tenancy.state
  formed : ∀ key tenant, tenancy.tenants key = some tenant → tenant.IsFormed
  occupies : ∀ key tenant, tenancy.tenants key = some tenant → tenant.Occupies book tenancy.state
  held : ∀ id binding, book.bindings tenancy.state id = some binding →
    ∃ key, tenancy.socketOf key = some id
  apart : ∀ key other id, tenancy.socketOf key = some id → tenancy.socketOf other = some id →
    key = other
  ports : ∀ id other binding neighbour, book.bindings tenancy.state id = some binding →
    book.bindings tenancy.state other = some neighbour →
    binding.endpoint.port = neighbour.endpoint.port → id = other

variable {tenancy : Tenancy fabric} {book : PortBook fabric} {key other : Nat} {id : SocketId}
  {tenant after : Tenant} {left : Option Tenant} {next : σ}

theorem state_replace : (tenancy.replace key left next).state = next := rfl

theorem tenants_replace_self : (tenancy.replace key left next).tenants key = left := by
  simp [replace]

theorem tenants_replace_of_ne (different : other ≠ key) :
    (tenancy.replace key left next).tenants other = tenancy.tenants other := by
  simp [replace, different]

theorem socketOf_eq (present : tenancy.tenants key = some tenant) :
    tenancy.socketOf key = tenant.socket := by
  rw [socketOf, present]
  rfl

theorem socketOf_replace_of_ne (different : other ≠ key) :
    (tenancy.replace key left next).socketOf other = tenancy.socketOf other := by
  rw [socketOf, tenants_replace_of_ne different, socketOf]

theorem IsSound.exists_bound (sound : tenancy.IsSound book)
    (holds : tenancy.socketOf key = some id) :
    ∃ binding, book.bindings tenancy.state id = some binding := by
  obtain ⟨tenant, present, isSocket⟩ := Option.bind_eq_some_iff.mp holds
  exact ⟨_, sound.occupies key tenant present id isSocket⟩

/-! ## One step -/

/-- What an action leaves under its key: the role as it is now, or nothing if that has no socket. -/
def Leaves (left : Option Tenant) (after : Tenant) : Prop :=
  left = some after ∨ left = none ∧ after.socket = none

theorem Leaves.socketOf_replace (leaves : Leaves left after) :
    (tenancy.replace key left next).socketOf key = after.socket := by
  rw [socketOf, tenants_replace_self]
  rcases leaves with rfl | ⟨rfl, empty⟩
  · rfl
  · exact empty.symm

/-- What is so of the changed role and of the others is so of all. -/
theorem Leaves.forall_replace (leaves : Leaves left after) {property : Tenant → Prop}
    (changed : property after)
    (others : ∀ other tenant, other ≠ key → tenancy.tenants other = some tenant → property tenant) :
    ∀ other tenant, (tenancy.replace key left next).tenants other = some tenant →
      property tenant := by
  intro other tenant present
  by_cases same : other = key
  · rw [same, tenants_replace_self] at present
    rcases leaves with rfl | ⟨rfl, -⟩
    · cases present
      exact changed
    · cases present
  · rw [tenants_replace_of_ne same] at present
    exact others other tenant same present

/-- A role keeps its socket, or it has none before and after. -/
theorem IsSound.same (sound : tenancy.IsSound book) (present : tenancy.tenants key = some tenant)
    (moves : tenant.Moves book tenancy.state after next) (leaves : Leaves left after)
    (unchanged : book.bindings next = book.bindings tenancy.state)
    (socket : after.socket = tenant.socket) :
    IsSound (tenancy.replace key left next) book := by
  have sockets : (tenancy.replace key left next).socketOf = tenancy.socketOf := by
    funext other
    by_cases same : other = key
    · rw [same, leaves.socketOf_replace, socket, socketOf_eq present]
    · exact socketOf_replace_of_ne same
  refine ⟨moves.intact, leaves.forall_replace moves.isFormed fun other tenant _ =>
    sound.formed other tenant, leaves.forall_replace ?_ fun other tenant _ isThere => ?_, ?_, ?_, ?_⟩
  · intro id holds
    rw [state_replace, unchanged, moves.binding]
    exact sound.occupies key _ present id (socket ▸ holds)
  · rw [Tenant.Occupies, state_replace, unchanged]
    exact sound.occupies other tenant isThere
  · rw [state_replace, unchanged, sockets]
    exact sound.held
  · rw [sockets]
    exact sound.apart
  · rw [state_replace, unchanged]
    exact sound.ports

theorem IsSound.bound (sound : tenancy.IsSound book) (present : tenancy.tenants key = some tenant)
    (moves : tenant.Moves book tenancy.state after next) (leaves : Leaves left after)
    (fresh : book.bindings tenancy.state id = none)
    (free : ¬ (book.bindings tenancy.state).IsTaken tenant.port)
    (added : ∀ other, book.bindings next other =
      if other = id then some tenant.binding else book.bindings tenancy.state other)
    (idle : tenant.socket = none) (socket : after.socket = some id) :
    IsSound (tenancy.replace key left next) book := by
  -- the new socket has one owner and one seat, and all others are where they were
  have holds : (tenancy.replace key left next).socketOf key = some id :=
    leaves.socketOf_replace.trans socket
  have old : ∀ other binding, book.bindings tenancy.state other = some binding →
      book.bindings next other = some binding := by
    intro other binding isBound
    have different : other ≠ id := by
      rintro rfl
      cases fresh.symm.trans isBound
    rw [added, if_neg different, isBound]
  have owners : ∀ other shared, (tenancy.replace key left next).socketOf other = some shared →
      other = key ∧ shared = id ∨
        other ≠ key ∧ shared ≠ id ∧ tenancy.socketOf other = some shared := by
    intro other shared owns
    by_cases same : other = key
    · rw [same, holds] at owns
      exact .inl ⟨same, (Option.some.inj owns).symm⟩
    · rw [socketOf_replace_of_ne same] at owns
      obtain ⟨binding, isBound⟩ := sound.exists_bound owns
      refine .inr ⟨same, ?_, owns⟩
      rintro rfl
      cases fresh.symm.trans isBound
  have seats : ∀ other binding, book.bindings next other = some binding →
      other = id ∧ binding = tenant.binding ∨
        other ≠ id ∧ book.bindings tenancy.state other = some binding := by
    intro other binding isBound
    rw [added] at isBound
    by_cases same : other = id
    · rw [if_pos same] at isBound
      exact .inl ⟨same, (Option.some.inj isBound).symm⟩
    · rw [if_neg same] at isBound
      exact .inr ⟨same, isBound⟩
  refine ⟨moves.intact, leaves.forall_replace moves.isFormed fun other tenant _ =>
    sound.formed other tenant, leaves.forall_replace ?_ fun other tenant _ isThere => ?_, ?_, ?_, ?_⟩
  · intro other holds
    have same : other = id := Option.some.inj (holds.symm.trans socket)
    rw [state_replace, added, if_pos same, moves.binding]
  · intro other holds
    exact old other _ (sound.occupies _ tenant isThere other holds)
  · intro other binding isBound
    obtain ⟨rfl, -⟩ | ⟨-, was⟩ := seats other binding isBound
    · exact ⟨key, holds⟩
    · obtain ⟨owner, owns⟩ := sound.held other binding was
      have different : owner ≠ key := by
        rintro rfl
        rw [socketOf_eq present, idle] at owns
        cases owns
      exact ⟨owner, (socketOf_replace_of_ne different).trans owns⟩
  · intro one two shared first second
    obtain ⟨rfl, isNew⟩ | ⟨-, isOld, first⟩ := owners one shared first
    · obtain ⟨rfl, -⟩ | ⟨-, isOld, -⟩ := owners two shared second
      · rfl
      · exact absurd isNew isOld
    · obtain ⟨-, isNew⟩ | ⟨-, -, second⟩ := owners two shared second
      · exact absurd isNew isOld
      · exact sound.apart one two shared first second
  · intro one two binding neighbour first second same
    obtain ⟨rfl, rfl⟩ | ⟨-, first⟩ := seats one binding first
    · obtain ⟨rfl, -⟩ | ⟨-, second⟩ := seats two neighbour second
      · rfl
      · exact absurd ⟨two, neighbour, second, same.symm⟩ free
    · obtain ⟨rfl, rfl⟩ | ⟨-, second⟩ := seats two neighbour second
      · exact absurd ⟨one, binding, first, same⟩ free
      · exact sound.ports one two binding neighbour first second same

theorem IsSound.freed (sound : tenancy.IsSound book) (present : tenancy.tenants key = some tenant)
    (moves : tenant.Moves book tenancy.state after next) (leaves : Leaves left after)
    (removed : ∀ other, book.bindings next other =
      if other = id then none else book.bindings tenancy.state other)
    (live : tenant.socket = some id) (socket : after.socket = none) :
    IsSound (tenancy.replace key left next) book := by
  have owner : tenancy.socketOf key = some id := (socketOf_eq present).trans live
  have owners : ∀ other shared, (tenancy.replace key left next).socketOf other = some shared →
      other ≠ key ∧ tenancy.socketOf other = some shared := by
    intro other shared owns
    by_cases same : other = key
    · rw [same, leaves.socketOf_replace, socket] at owns
      cases owns
    · rw [socketOf_replace_of_ne same] at owns
      exact ⟨same, owns⟩
  have seats : ∀ other binding, book.bindings next other = some binding →
      other ≠ id ∧ book.bindings tenancy.state other = some binding := by
    intro other binding isBound
    rw [removed] at isBound
    by_cases same : other = id
    · rw [if_pos same] at isBound
      cases isBound
    · rw [if_neg same] at isBound
      exact ⟨same, isBound⟩
  refine ⟨moves.intact, leaves.forall_replace moves.isFormed fun other tenant _ =>
    sound.formed other tenant,
    leaves.forall_replace ?_ fun other tenant different isThere => ?_, ?_, ?_, ?_⟩
  · intro other holds
    cases holds.symm.trans socket
  · intro shared holds
    have notFreed : shared ≠ id := by
      rintro rfl
      exact different (sound.apart other key shared ((socketOf_eq isThere).trans holds) owner)
    rw [state_replace, removed, if_neg notFreed]
    exact sound.occupies _ tenant isThere shared holds
  · intro other binding isBound
    obtain ⟨notFreed, was⟩ := seats other binding isBound
    obtain ⟨keeper, keeps⟩ := sound.held other binding was
    have different : keeper ≠ key := by
      rintro rfl
      exact notFreed (Option.some.inj (keeps.symm.trans owner))
    exact ⟨keeper, (socketOf_replace_of_ne different).trans keeps⟩
  · intro one two shared first second
    exact sound.apart one two shared (owners one shared first).2 (owners two shared second).2
  · intro one two binding neighbour first second
    exact sound.ports one two binding neighbour (seats one binding first).2
      (seats two neighbour second).2

/-- One role moved, and the others stay where they are. -/
theorem IsSound.moves (sound : tenancy.IsSound book) (present : tenancy.tenants key = some tenant)
    (moves : tenant.Moves book tenancy.state after next) (leaves : Leaves left after) :
    IsSound (tenancy.replace key left next) book := by
  have rebinds := moves.rebinds
  generalize before : tenant.socket = held at rebinds
  generalize now : after.socket = holds at rebinds
  cases rebinds with
  | same _ unchanged => exact sound.same present moves leaves unchanged (now.trans before.symm)
  | bound id fresh free added =>
      exact sound.bound present moves leaves fresh free added before now
  | freed id removed => exact sound.freed present moves leaves removed before now

theorem IsSound.perform (sound : tenancy.IsSound book) (key : Nat) (action : TenantAction) :
    (tenancy.perform key action).2.IsSound book := by
  unfold Tenancy.perform
  cases present : tenancy.tenants key with
  | none => exact sound
  | some tenant =>
      obtain ⟨after, moves, leaves, -⟩ := Tenant.perform_moves (sound.formed key tenant present)
        sound.intact (sound.occupies key tenant present) action
      exact sound.moves present moves leaves

theorem IsSound.run (sound : tenancy.IsSound book) (actions : List (Nat × TenantAction)) :
    (tenancy.run actions).IsSound book := by
  induction actions generalizing tenancy with
  | nil => exact sound
  | cons action later ih => exact ih (sound.perform action.1 action.2)

end Tenancy

end TaskLink
