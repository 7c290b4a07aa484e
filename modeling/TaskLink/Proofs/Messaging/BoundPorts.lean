import TaskLink.Proofs.Messaging.PortBooks
import TaskLink.Proofs.Messaging.SubscriberReads

/-!
# The port book of a network

In a network the bound sockets are those of the binding roles.  It keeps the
laws of a port book as long as no context is terminated and its publishers are
only given whole messages, and what a bound publisher is given reaches every
subscriber of its port.
-/

namespace TaskLink

namespace NetworkSocket

def binding? (socket : NetworkSocket) : Option Binding :=
  if socket.role.binds then some ⟨socket.role, socket.endpoint⟩ else none

/-- Nothing was given to a publisher but whole messages. -/
def IsResting (socket : NetworkSocket) : Prop :=
  socket.role = .publisher → socket.turn = .toSend none ∧ socket.composed = []

def hearing (port : UInt16) (parcel : Parcel) (socket : NetworkSocket) : NetworkSocket :=
  if socket.role = .subscriber && socket.endpoint.isLocal && socket.endpoint.port == port
  then { socket with inbox := socket.inbox ++ [parcel] }
  else socket

theorem binding?_hearing (port : UInt16) (parcel : Parcel) (socket : NetworkSocket) :
    (socket.hearing port parcel).binding? = socket.binding? := by
  unfold hearing
  split <;> rfl

theorem IsResting.hearing {socket : NetworkSocket} (resting : socket.IsResting) (port : UInt16)
    (parcel : Parcel) : (socket.hearing port parcel).IsResting := by
  unfold NetworkSocket.hearing
  split <;> exact resting

end NetworkSocket

namespace Network

/-! ## Bound sockets -/

def bindings (network : Network) : Bindings := fun id =>
  (network.find? id).bind NetworkSocket.binding?

/-- Names are given out once, no context was terminated, and publishers rest. -/
structure IsIntact (network : Network) : Prop where
  isNamed : network.IsNamed
  distinct : network.keys.Nodup
  alive : network.terminated = []
  resting : ∀ id socket, network.find? id = some socket → socket.IsResting

variable {network : Network} {id : SocketId} {port : UInt16}

theorem IsIntact.not_isTerminated (intact : network.IsIntact) (context : ContextId) :
    network.isTerminated context = false := by
  rw [isTerminated, intact.alive]
  rfl

theorem bindings_eq_some_iff {binding : Binding} :
    network.bindings id = some binding ↔
      ∃ socket, network.find? id = some socket ∧ socket.role.binds = true ∧
        ⟨socket.role, socket.endpoint⟩ = binding := by
  unfold bindings NetworkSocket.binding?
  rw [Option.bind_eq_some_iff]
  simp only [Option.ite_none_right_eq_some, Option.some.injEq]

/-- A port is taken if one of the bound sockets is bound to it. -/
theorem isBound_iff (distinct : network.keys.Nodup) :
    network.isBound port = true ↔ network.bindings.IsTaken port := by
  unfold isBound
  rw [List.any_eq_true]
  constructor
  · rintro ⟨⟨id, socket⟩, isIn, fits⟩
    rw [Bool.and_eq_true, beq_iff_eq] at fits
    have found := find?_of_mem distinct isIn
    exact ⟨id, _, bindings_eq_some_iff.mpr ⟨socket, found, fits.1, rfl⟩, fits.2⟩
  · rintro ⟨id, binding, isBound, same⟩
    obtain ⟨socket, found, binds, rfl⟩ := bindings_eq_some_iff.mp isBound
    obtain ⟨_, _, split, -⟩ := List.lookup_eq_some_iff.mp found
    refine ⟨(id, socket), split ▸ List.mem_append_right _ List.mem_cons_self, ?_⟩
    rw [Bool.and_eq_true, beq_iff_eq]
    exact ⟨binds, same⟩

/-! ## Closing and opening -/

theorem bindings_closeSocket (network : Network) (id key : SocketId) :
    (network.closeSocket id).bindings key = if key = id then none else network.bindings key := by
  unfold bindings
  rw [find?_closeSocket]
  by_cases same : key = id
  · rw [if_pos same, if_pos same]
    rfl
  · rw [if_neg same, if_neg same]

theorem IsIntact.closeSocket (intact : network.IsIntact) (id : SocketId) :
    (network.closeSocket id).IsIntact where
  isNamed := intact.isNamed.closeSocket id
  distinct := intact.distinct.sublist (List.filter_sublist.map Prod.fst)
  alive := intact.alive
  resting key socket found := by
    rw [find?_closeSocket] at found
    split at found
    · cases found
    · exact intact.resting key socket found

def opened (network : Network) (context : ContextId) (role : SocketRole) (endpoint : Endpoint) :
    Network :=
  { network.addSocket ⟨network.nextSocket⟩ (freshSocket context role endpoint) with
    nextSocket := network.nextSocket + 1 }

/-- What can be found after an opening: old sockets, perhaps without their requests, and the new. -/
theorem exists_find?_opened (network : Network) (context : ContextId) (role : SocketRole)
    (endpoint : Endpoint) :
    ∃ (change : NetworkSocket → NetworkSocket) (inbox : List Parcel),
      (∀ socket, (change socket).binding? = socket.binding? ∧
        (socket.IsResting → (change socket).IsResting)) ∧
      ∀ key, (network.opened context role endpoint).find? key =
        ((network.find? key).map change).or
          (if key = ⟨network.nextSocket⟩ then
            some { freshSocket context role endpoint with inbox := inbox } else none) := by
  by_cases responds : role = .responder
  · refine ⟨fetched endpoint.port, network.waitingFor endpoint.port, fun socket => ?_,
      fun key => find?_addSocket_responder responds key⟩
    unfold fetched
    split <;> exact ⟨rfl, id⟩
  · refine ⟨id, [], fun _ => ⟨rfl, id⟩, fun key => ?_⟩
    rw [Option.map_id_fun]
    exact find?_addSocket_of_ne responds key

theorem IsIntact.opened (intact : network.IsIntact) (context : ContextId) (role : SocketRole)
    (endpoint : Endpoint) : (network.opened context role endpoint).IsIntact where
  isNamed := intact.isNamed.addSocket _
  distinct := by
    change (network.addSocket _ _).keys.Nodup
    rw [keys_addSocket]
    refine List.nodup_append.mpr ⟨intact.distinct, List.pairwise_singleton _ _, ?_⟩
    rintro key isIn _ isNext rfl
    rw [List.mem_singleton.mp isNext] at isIn
    exact absurd (intact.isNamed _ isIn) (Nat.lt_irrefl _)
  alive := by
    change (network.addSocket _ _).terminated = []
    unfold addSocket
    split <;> exact intact.alive
  resting key socket isThere := by
    obtain ⟨change, inbox, keeps, found⟩ := exists_find?_opened network context role endpoint
    rw [found, Option.or_eq_some_iff] at isThere
    rcases isThere with old | ⟨-, new⟩
    · obtain ⟨former, wasThere, rfl⟩ := Option.map_eq_some_iff.mp old
      exact (keeps former).2 (intact.resting key former wasThere)
    · split at new
      · cases new
        rintro rfl
        exact ⟨rfl, rfl⟩
      · cases new

/-- A binding role that is opened adds its socket to the bound ones. -/
theorem bindings_opened (intact : network.IsIntact) (context : ContextId) {role : SocketRole}
    (binds : role.binds = true) (endpoint : Endpoint) (key : SocketId) :
    (network.opened context role endpoint).bindings key =
      if key = ⟨network.nextSocket⟩ then some ⟨role, endpoint⟩ else network.bindings key := by
  obtain ⟨change, inbox, keeps, found⟩ := exists_find?_opened network context role endpoint
  unfold bindings
  rw [found]
  by_cases same : key = ⟨network.nextSocket⟩
  · rw [if_pos same, if_pos same, same, intact.isNamed.find?_nextSocket]
    exact if_pos binds
  · rw [if_neg same, if_neg same, Option.or_none]
    cases network.find? key with
    | none => rfl
    | some socket => exact (keeps socket).1

theorem bindings_nextSocket (intact : network.IsIntact) :
    network.bindings ⟨network.nextSocket⟩ = none := by
  rw [bindings, intact.isNamed.find?_nextSocket]
  rfl

/-! ## Publishing -/

theorem bindings_of_hearing {after : Network} {parcel : Parcel}
    (heard : ∀ key, after.find? key =
      (network.find? key).map (NetworkSocket.hearing port parcel)) :
    after.bindings = network.bindings := by
  funext key
  unfold bindings
  rw [heard]
  cases network.find? key with
  | none => rfl
  | some socket => exact socket.binding?_hearing port parcel

/-- A message of a bound publisher goes out to the subscribers of its port, and nowhere else. -/
theorem send_of_bound (intact : network.IsIntact) {endpoint : Endpoint}
    (isBound : network.bindings id = some ⟨.publisher, endpoint⟩) (message : ByteArray) :
    ∃ after, network.send id message false = (.ok (), after) ∧ after.IsIntact ∧
      after.bindings = network.bindings ∧
      ∀ key, after.find? key =
        (network.find? key).map (NetworkSocket.hearing endpoint.port ⟨id, message, []⟩) := by
  obtain ⟨socket, found, binds, same⟩ := bindings_eq_some_iff.mp isBound
  have role : socket.role = .publisher := congrArg Binding.role same
  have isAt : socket.endpoint = endpoint := congrArg Binding.endpoint same
  obtain ⟨turn, composed⟩ := intact.resting id socket found role
  have usable : network.usable id = .ok socket :=
    usable_eq_ok_iff.mpr ⟨found, intact.not_isTerminated _⟩
  obtain ⟨sent, replaces, sending⟩ := send_last usable turn message
  rw [composed, parcelOf, dispatch, role] at sending
  rw [afterSending_of_publisher role turn composed] at replaces
  have unchanged : ∀ key, sent.find? key = network.find? key := by
    intro key
    by_cases same : key = id
    · rw [same, replaces.found, found]
    · exact replaces.others key same
  have heard : ∀ key, (sent.broadcast socket.endpoint.port ⟨id, message, []⟩).find? key =
      (network.find? key).map (NetworkSocket.hearing endpoint.port ⟨id, message, []⟩) := by
    intro key
    rw [find?_broadcast, unchanged, isAt]
    rfl
  have keys : (sent.broadcast socket.endpoint.port ⟨id, message, []⟩).keys = network.keys :=
    (keys_broadcast _ _ _).trans replaces.keys
  refine ⟨_, sending, ⟨?_, ?_, replaces.terminated.trans intact.alive, ?_⟩,
    bindings_of_hearing heard, heard⟩
  · intro key isIn
    have isNamed : key.number < network.nextSocket := intact.isNamed key (keys ▸ isIn)
    exact replaces.nextSocket.symm ▸ isNamed
  · exact keys.symm ▸ intact.distinct
  · intro key other isThere
    obtain ⟨former, wasThere, rfl⟩ := Option.map_eq_some_iff.mp ((heard key).symm.trans isThere)
    exact (intact.resting key former wasThere).hearing _ _

/-! ## The book -/

/-- Why a binding role cannot be opened while no context was terminated. -/
theorem openFault?_of_binds (intact : network.IsIntact) {role : SocketRole}
    (binds : role.binds = true) {endpoint : Endpoint} (port : endpoint.port ≠ 0)
    (context : ContextId) (options : SocketOptions) :
    network.openFault? context role endpoint options =
      if options.areRefused role then some (.tune .invalidArgument)
      else if network.isBound endpoint.port then some (.attach .addressInUse)
      else none := by
  simp [openFault?, intact.not_isTerminated, binds, port]

theorem openSocket_of_fault {context : ContextId} {role : SocketRole} {endpoint : Endpoint}
    {options : SocketOptions} {fault : OpenFault}
    (refused : network.openFault? context role endpoint options = some fault) :
    network.openSocket context role endpoint options = (.error fault, network) := by
  rw [openSocket, refused]

def portBook : PortBook fabric where
  bindings := bindings
  IsIntact := IsIntact
  tuneFault? role options := if options.areRefused role then some .invalidArgument else none
  newContext intact := ⟨⟨intact.isNamed, intact.distinct, intact.alive, intact.resting⟩, rfl⟩
  untuned {network role endpoint options fault} context intact binds refused := by
    obtain ⟨areRefused, rfl⟩ := Option.ite_some_none_eq_some.mp refused
    apply openSocket_of_fault
    simp [openFault?, intact.not_isTerminated, areRefused]
  taken {network role endpoint options} context intact binds port tuned taken := by
    have accepted : options.areRefused role = false := by simpa using tuned
    have isBound := (isBound_iff intact.distinct).mpr taken
    apply openSocket_of_fault
    rw [openFault?_of_binds intact binds port, accepted, isBound]
    rfl
  opened {network role endpoint options} context intact binds port tuned free := by
    have accepted : options.areRefused role = false := by simpa using tuned
    have notBound : network.isBound endpoint.port = false := by
      rwa [← Bool.not_eq_true, isBound_iff intact.distinct]
    have permitted : network.openFault? context role endpoint options = none := by
      rw [openFault?_of_binds intact binds port, accepted, notBound]
      rfl
    refine ⟨⟨network.nextSocket⟩, network.opened context role endpoint, ?_,
      intact.opened context role endpoint, ?_⟩
    · change network.openSocket context role endpoint options = _
      rw [openSocket, permitted]
      rfl
    · exact .bound _ (bindings_nextSocket intact) free (bindings_opened intact context binds endpoint)
  closed {network} id intact := ⟨intact.closeSocket id, bindings_closeSocket network id⟩
  sent message intact isBound := by
    obtain ⟨after, sent, intactAfter, unchanged, -⟩ := send_of_bound intact isBound message
    exact ⟨after, sent, intactAfter, unchanged⟩

end Network

end TaskLink
