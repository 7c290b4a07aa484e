import TaskLink.Proofs.Messaging.Parley

/-!
# What holds between a client and its peer

The invariant of a parley ties together the turn of the client's socket, the
turn of the peer's socket, the messages on their way, and the history.  Each
operation of the network keeps it, and so does whatever the peer does.
-/

namespace TaskLink

/-! ## Histories -/

namespace ParleyEvent

theorem progress_cons (id : SocketId) (event : ParleyEvent) (earlier : List ParleyEvent) :
    progress id (event :: earlier) = (event.mark id).getD (progress id earlier) := by
  unfold progress
  rw [List.findSome?_cons]
  cases event.mark id <;> rfl

theorem owed_cons (event : ParleyEvent) (earlier : List ParleyEvent) :
    owed (event :: earlier) = event.debt.getD (owed earlier) := by
  unfold owed
  rw [List.findSome?_cons]
  cases event.debt <;> rfl

section Marks

variable {id key : SocketId} (frames : List ByteArray) (request : Reading)
  (earlier : List ParleyEvent)

theorem progress_transmitted :
    progress id (.transmitted id frames :: earlier) = .asked frames := by
  rw [progress_cons, mark, if_pos rfl]
  rfl

theorem progress_taken : progress id (.taken id request :: earlier) = .taken := by
  rw [progress_cons, mark, if_pos rfl]
  rfl

theorem progress_answered :
    progress id (.answered id frames :: earlier) = .answered frames := by
  rw [progress_cons, mark, if_pos rfl]
  rfl

variable (different : key ≠ id)

include different

theorem progress_transmitted_ne :
    progress key (.transmitted id frames :: earlier) = progress key earlier := by
  rw [progress_cons, mark, if_neg different.symm]
  rfl

theorem progress_taken_ne : progress key (.taken id request :: earlier) = progress key earlier := by
  rw [progress_cons, mark, if_neg different.symm]
  rfl

theorem progress_answered_ne :
    progress key (.answered id frames :: earlier) = progress key earlier := by
  rw [progress_cons, mark, if_neg different.symm]
  rfl

end Marks

theorem Orderly.of_append {later earlier : List ParleyEvent}
    (orderly : Orderly (later ++ earlier)) : Orderly earlier := by
  induction later with
  | nil => exact orderly
  | cons event rest ih => exact ih orderly.2

theorem of_mark {id : SocketId} {event : ParleyEvent} {reached : Progress}
    (marked : event.mark id = some reached) :
    match reached with
    | .idle => False
    | .asked frames => event = .transmitted id frames
    | .taken => ∃ request, event = .taken id request
    | .answered frames => event = .answered id frames := by
  have own {socket : SocketId} {progress : Progress}
      (chosen : (if socket = id then some progress else none) = some reached) :
      socket = id ∧ progress = reached := by
    split at chosen
    · next same => exact ⟨same, Option.some.inj chosen⟩
    · cases chosen
  cases event with
  | transmitted socket frames =>
      obtain ⟨rfl, rfl⟩ := own marked
      rfl
  | taken socket request =>
      obtain ⟨rfl, rfl⟩ := own marked
      exact ⟨request, rfl⟩
  | answered socket frames =>
      obtain ⟨rfl, rfl⟩ := own marked
      rfl
  | opened socket => cases marked
  | openingFailed => cases marked
  | admitted socket => cases marked
  | declined socket => cases marked
  | replied socket => cases marked

theorem transmitted_of_asked {id : SocketId} {frames : List ByteArray}
    {history : List ParleyEvent} (asked : progress id history = .asked frames) :
    .transmitted id frames ∈ history := by
  unfold progress at asked
  cases found : history.findSome? (mark id) with
  | none =>
      rw [found] at asked
      cases asked
  | some reached =>
      rw [found] at asked
      have isReached : reached = .asked frames := asked
      subst isReached
      obtain ⟨event, member, marked⟩ := List.exists_of_findSome?_eq_some found
      have isEvent : event = .transmitted id frames := of_mark marked
      rwa [isEvent] at member

def IsSilent : ParleyEvent → Prop
  | .transmitted _ _ | .taken _ _ | .answered _ _ => False
  | _ => True

namespace IsSilent

variable {event : ParleyEvent} (silent : event.IsSilent) (earlier : List ParleyEvent)

include silent

theorem progress_cons (id : SocketId) : progress id (event :: earlier) = progress id earlier := by
  rw [ParleyEvent.progress_cons]
  cases event <;> first | rfl | exact silent.elim

theorem owed_cons : owed (event :: earlier) = owed earlier := by
  rw [ParleyEvent.owed_cons]
  cases event <;> first | rfl | exact silent.elim

theorem mayFollow : event.MayFollow earlier := by
  cases event <;> trivial

end IsSilent

end ParleyEvent

/-! ## Stands -/

/-- What an inbox holds that is filled by the exchange alone: an answer, once there is one. -/
def Progress.Fills (inbox : List Parcel) : Progress → Prop
  | .idle => False
  | .asked _ | .taken => inbox = []
  | .answered frames => ∃ parcel, inbox = [parcel] ∧ parcel.frames = frames

inductive Stand where
  /-- It may send; of its next request it has sent these frames. -/
  | ready (composed : List ByteArray)
  /-- It waits for a reply. -/
  | awaiting
  /-- It has read some frames of a reply, and this many are left. -/
  | reading (read : List ByteArray) (left : Nat)

/-- A socket is at a stand when the exchange over it has come so far. -/
def Stand.Fits (socket : NetworkSocket) (progress : Progress) : Stand → Prop
  | .ready composed =>
      socket.turn ≠ .toReceive ∧ socket.composed = composed ∧ socket.inbox = [] ∧
        progress.IsSettled
  | .awaiting =>
      socket.turn = .toReceive ∧ socket.composed = [] ∧ progress.Fills socket.inbox
  | .reading read left =>
      socket.turn = .toReceive ∧ socket.composed = [] ∧
        ∃ parcel, socket.inbox = [parcel] ∧ parcel.frames.length = left ∧
          progress = .answered (read ++ parcel.frames)

namespace Stand.Fits

variable {socket : NetworkSocket} {stand : Stand}

theorem taken {frames : List ByteArray} (fits : stand.Fits socket (.asked frames)) :
    stand.Fits socket .taken := by
  cases stand with
  | ready composed => exact fits.2.2.2.elim
  | awaiting => exact fits
  | reading read left =>
      obtain ⟨-, -, reply, -, -, impossible⟩ := fits
      cases impossible

theorem answered (fits : stand.Fits socket .taken) {answered : NetworkSocket} {parcel : Parcel}
    (turn : answered.turn = socket.turn) (composed : answered.composed = socket.composed)
    (inbox : answered.inbox = socket.inbox ++ [parcel]) :
    stand.Fits answered (.answered parcel.frames) := by
  cases stand with
  | ready composed => exact fits.2.2.2.elim
  | awaiting =>
      obtain ⟨awaits, whole, empty⟩ := fits
      have nothing : socket.inbox = [] := empty
      rw [nothing] at inbox
      exact ⟨turn.trans awaits, composed.trans whole, parcel, inbox, rfl⟩
  | reading read left =>
      obtain ⟨-, -, reply, -, -, impossible⟩ := fits
      cases impossible

end Stand.Fits

/-- The peer's socket owes an answer only for what it has taken. -/
def Serves (socket : NetworkSocket) (history : List ParleyEvent) : Prop :=
  socket.role = .responder ∧ socket.composed = [] ∧ socket.outbox = [] ∧
    ∀ peer, socket.turn = .toSend peer →
      ∃ id, peer = some id ∧ ParleyEvent.owed history = some id ∧
        ParleyEvent.progress id history = .taken

theorem Serves.of_eq {old new : NetworkSocket} {history later : List ParleyEvent}
    (serves : Serves old history) (role : new.role = old.role)
    (composed : new.composed = old.composed) (outbox : new.outbox = old.outbox)
    (turn : new.turn = old.turn) (owed : ParleyEvent.owed later = ParleyEvent.owed history)
    (taken : ∀ id, ParleyEvent.progress id history = .taken →
      ParleyEvent.progress id later = .taken) : Serves new later := by
  obtain ⟨isResponder, whole, empty, owes⟩ := serves
  refine ⟨role.trans isResponder, composed.trans whole, outbox.trans empty, ?_⟩
  intro peer toSend
  obtain ⟨id, isPeer, isOwed, isTaken⟩ := owes peer (turn.symm.trans toSend)
  exact ⟨id, isPeer, owed.trans isOwed, taken id isTaken⟩

/-! ## Requests under way -/

namespace Network

def outbox (network : Network) (id : SocketId) : List Parcel :=
  match network.find? id with
  | some socket => socket.outbox
  | none => []

def inbox (network : Network) (served : Option SocketId) : List Parcel :=
  match served.bind network.find? with
  | some socket => socket.inbox
  | none => []

def pending (network : Network) (served : Option SocketId) (id : SocketId) : List Parcel :=
  network.outbox id ++ (network.inbox served).filter (·.sender = id)

theorem outbox_of_find? {network : Network} {id : SocketId} {socket : NetworkSocket}
    (found : network.find? id = some socket) : network.outbox id = socket.outbox := by
  rw [outbox, found]

theorem outbox_congr {before after : Network} {id : SocketId}
    (same : after.find? id = before.find? id) : after.outbox id = before.outbox id := by
  rw [outbox, outbox, same]

theorem Replaces.outbox {before after : Network} {id : SocketId} {old new : NetworkSocket}
    (replaces : Replaces before after id new) (found : before.find? id = some old)
    (same : new.outbox = old.outbox) (key : SocketId) : after.outbox key = before.outbox key := by
  by_cases chosen : key = id
  · rw [chosen, outbox_of_find? replaces.found, outbox_of_find? found, same]
  · exact outbox_congr (replaces.others key chosen)

theorem inbox_of_find? {network : Network} {id : SocketId} {socket : NetworkSocket}
    (found : network.find? id = some socket) : network.inbox (some id) = socket.inbox := by
  rw [inbox, Option.bind_some, found]

theorem inbox_congr {before after : Network} {served : Option SocketId}
    (same : ∀ id, served = some id → after.find? id = before.find? id) :
    after.inbox served = before.inbox served := by
  cases served with
  | none => rfl
  | some id => rw [inbox, inbox, Option.bind_some, Option.bind_some, same id rfl]

end Network

/-- At most one request of a socket is under way, and only if it was not taken yet. -/
def InFlight (parcels : List Parcel) (id : SocketId) (progress : Progress) : Prop :=
  parcels = [] ∨
    ∃ parcel, parcels = [parcel] ∧ parcel.sender = id ∧ progress = .asked parcel.frames

namespace InFlight

variable {parcels : List Parcel} {id : SocketId} {progress : Progress}

theorem sublist {fewer : List Parcel} (inFlight : InFlight parcels id progress)
    (sublist : fewer.Sublist parcels) : InFlight fewer id progress := by
  obtain rfl | ⟨parcel, rfl, sender, asked⟩ := inFlight
  · exact Or.inl (List.sublist_nil.mp sublist)
  · rcases List.sublist_cons_iff.mp sublist with empty | ⟨rest, rfl, empty⟩
    · exact Or.inl (List.sublist_nil.mp empty)
    · rw [List.sublist_nil.mp empty]
      exact Or.inr ⟨parcel, rfl, sender, asked⟩

theorem eq_nil (inFlight : InFlight parcels id progress)
    (unasked : ∀ frames, progress ≠ .asked frames) : parcels = [] := by
  obtain empty | ⟨parcel, -, -, asked⟩ := inFlight
  · exact empty
  · exact absurd asked (unasked parcel.frames)

end InFlight

theorem Progress.IsSettled.ne_asked {progress : Progress} (settled : progress.IsSettled)
    (frames : List ByteArray) : progress ≠ .asked frames := by
  rintro rfl
  exact settled

theorem Progress.IsSettled.ne_taken {progress : Progress} (settled : progress.IsSettled) :
    progress ≠ .taken := by
  rintro rfl
  exact settled

/-! ## The invariant -/

/-- The sockets of a network are the client's and the peer's. -/
structure Registry (held served : Option SocketId) (network : Network) : Prop where
  distinct : network.keys.Nodup
  named : ∀ id ∈ network.keys, id.number < network.nextSocket
  known : ∀ id ∈ network.keys, held = some id ∨ served = some id

/-- Client and peer agree on how far the exchanges have come. -/
structure Concord (held : Option (SocketId × Stand)) (served : Option SocketId)
    (network : Network) (history : List ParleyEvent) : Prop where
  registry : Registry (held.map Prod.fst) served network
  untold : ∀ id : SocketId, network.nextSocket ≤ id.number →
    ParleyEvent.progress id history = .idle
  orderly : ParleyEvent.Orderly history
  client : ∀ id stand, held = some (id, stand) →
    ∃ socket, network.find? id = some socket ∧ socket.role = .requester ∧
      stand.Fits socket (ParleyEvent.progress id history)
  server : ∀ id, served = some id →
    ∃ socket, network.find? id = some socket ∧ Serves socket history ∧
      ParleyEvent.progress id history = .idle
  flight : ∀ id, InFlight (network.pending served id) id (ParleyEvent.progress id history)

namespace Registry

variable {held served : Option SocketId} {network : Network}

theorem of_keys {after : Network} (registry : Registry held served network)
    (keys : after.keys = network.keys) (nextSocket : after.nextSocket = network.nextSocket) :
    Registry held served after := by
  constructor
  · rw [keys]
    exact registry.distinct
  · rw [keys, nextSocket]
    exact registry.named
  · rw [keys]
    exact registry.known

theorem closeSocket {id : SocketId} {held' served' : Option SocketId}
    (registry : Registry held served network)
    (others : ∀ key, key ≠ id → held = some key ∨ served = some key →
      held' = some key ∨ served' = some key) :
    Registry held' served' (network.closeSocket id) := by
  have keys : (network.closeSocket id).keys = network.keys.filter (· != id) := by
    rw [Network.keys, Network.keys, Network.closeSocket, List.filter_map]
    rfl
  constructor
  · rw [keys]
    exact registry.distinct.filter _
  · exact Network.IsNamed.closeSocket registry.named id
  · intro key member
    rw [keys, List.mem_filter] at member
    exact others key (by simpa using member.2) (registry.known key member.1)

theorem openSocket {held' served' : Option SocketId} (registry : Registry held served network)
    (socket : NetworkSocket)
    (others : ∀ key, key = ⟨network.nextSocket⟩ ∨ held = some key ∨ served = some key →
      held' = some key ∨ served' = some key) :
    Registry held' served'
      { network.addSocket ⟨network.nextSocket⟩ socket with
        nextSocket := network.nextSocket + 1 } := by
  have keys := Network.keys_addSocket network ⟨network.nextSocket⟩ socket
  constructor
  · change (network.addSocket ⟨network.nextSocket⟩ socket).keys.Nodup
    rw [keys, List.nodup_append]
    refine ⟨registry.distinct, by simp, fun key member other single => ?_⟩
    rintro rfl
    rw [List.mem_singleton.mp single] at member
    exact Nat.lt_irrefl _ (registry.named _ member)
  · exact Network.IsNamed.addSocket registry.named socket
  · intro key member
    change key ∈ (network.addSocket ⟨network.nextSocket⟩ socket).keys at member
    rw [keys, List.mem_append, List.mem_singleton] at member
    rcases member with old | rfl
    · exact others key (Or.inr (registry.known key old))
    · exact others _ (Or.inl rfl)

/-- No socket has the name that is given out next. -/
theorem find?_nextSocket (registry : Registry held served network) :
    network.find? ⟨network.nextSocket⟩ = none :=
  Network.IsNamed.find?_nextSocket registry.named

theorem known_of_find? (registry : Registry held served network) {id : SocketId}
    {socket : NetworkSocket} (found : network.find? id = some socket) :
    held = some id ∨ served = some id :=
  registry.known id (Network.mem_keys_iff.mpr ⟨socket, found⟩)

/-- A network without a peer holds no socket but the client's. -/
theorem sockets_eq (registry : Registry held none network) :
    network.sockets = [] ∨
      ∃ id socket, held = some id ∧ network.find? id = some socket ∧
        network.sockets = [(id, socket)] := by
  have distinct := registry.distinct
  have known := registry.known
  unfold Network.keys at distinct known
  cases split : network.sockets with
  | nil => exact Or.inl rfl
  | cons entry rest =>
      obtain ⟨id, socket⟩ := entry
      rw [split] at distinct known
      have isHeld : held = some id := by
        rcases known id List.mem_cons_self with isHeld | impossible
        · exact isHeld
        · cases impossible
      have alone : rest = [] := by
        cases rest with
        | nil => rfl
        | cons other more =>
            rcases known other.1 (List.mem_cons_of_mem _ List.mem_cons_self) with same | impossible
            · rw [isHeld] at same
              cases same
              exact absurd List.mem_cons_self (List.nodup_cons.mp distinct).1
            · cases impossible
      subst alone
      refine Or.inr ⟨id, socket, isHeld, ?_, rfl⟩
      exact Network.find?_of_mem registry.distinct (by rw [split]; exact List.mem_cons_self)

end Registry

namespace Concord

variable {held : Option (SocketId × Stand)} {served : Option SocketId} {network after : Network}
  {history : List ParleyEvent} {id : SocketId} {stand : Stand}

/-! ## What changes nothing -/

theorem ne_served (concord : Concord (some (id, stand)) served network history) :
    served ≠ some id := by
  intro same
  obtain ⟨socket, found, role, -⟩ := concord.client id stand rfl
  obtain ⟨other, found', serves, -⟩ := concord.server id same
  rw [found] at found'
  cases found'
  cases role.symm.trans serves.1

theorem number_lt (concord : Concord held served network history) {socket : NetworkSocket}
    (found : network.find? id = some socket) : id.number < network.nextSocket :=
  concord.registry.named id (Network.mem_keys_iff.mpr ⟨socket, found⟩)

theorem of_alike (concord : Concord held served network history)
    (alike : Network.Alike network after) : Concord held served after history where
  registry := concord.registry.of_keys alike.keys alike.nextSocket
  untold id fresh := concord.untold id (alike.nextSocket ▸ fresh)
  orderly := concord.orderly
  client id stand isHeld := by
    obtain ⟨socket, found, fits⟩ := concord.client id stand isHeld
    exact ⟨socket, (alike.found id).trans found, fits⟩
  server id isServed := by
    obtain ⟨socket, found, serves⟩ := concord.server id isServed
    exact ⟨socket, (alike.found id).trans found, serves⟩
  flight id := by
    have same : after.pending served id = network.pending served id := by
      rw [Network.pending, Network.pending, Network.outbox_congr (alike.found id),
        Network.inbox_congr fun key _ => alike.found key]
    rw [same]
    exact concord.flight id

theorem of_silent (concord : Concord held served network history) {event : ParleyEvent}
    (silent : event.IsSilent) : Concord held served network (event :: history) where
  registry := concord.registry
  untold id fresh := (silent.progress_cons history id).trans (concord.untold id fresh)
  orderly := ⟨silent.mayFollow history, concord.orderly⟩
  client id stand isHeld := by
    obtain ⟨socket, found, role, fits⟩ := concord.client id stand isHeld
    refine ⟨socket, found, role, ?_⟩
    rw [silent.progress_cons]
    exact fits
  server id isServed := by
    obtain ⟨socket, found, serves, idle⟩ := concord.server id isServed
    refine ⟨socket, found, ?_, (silent.progress_cons history id).trans idle⟩
    exact serves.of_eq rfl rfl rfl rfl (silent.owed_cons history) fun other taken =>
      (silent.progress_cons history other).trans taken
  flight id := by
    rw [silent.progress_cons]
    exact concord.flight id

/-! ## The client's steps -/

/-- The client's socket comes to another stand, and no request moves. -/
theorem replace_held (concord : Concord (some (id, stand)) served network history)
    {socket changed : NetworkSocket} {stand' : Stand} (found : network.find? id = some socket)
    (replaces : Network.Replaces network after id changed) (role : changed.role = socket.role)
    (outbox : changed.outbox = socket.outbox)
    (fits : stand'.Fits changed (ParleyEvent.progress id history)) :
    Concord (some (id, stand')) served after history where
  registry := concord.registry.of_keys replaces.keys replaces.nextSocket
  untold key fresh := concord.untold key (replaces.nextSocket ▸ fresh)
  orderly := concord.orderly
  client key other isHeld := by
    cases isHeld
    obtain ⟨old, found', isRequester, -⟩ := concord.client id stand rfl
    rw [found] at found'
    cases found'
    exact ⟨changed, replaces.found, role.trans isRequester, fits⟩
  server key isServed := by
    obtain ⟨old, found', serves⟩ := concord.server key isServed
    refine ⟨old, (replaces.others key ?_).trans found', serves⟩
    rintro rfl
    exact concord.ne_served isServed
  flight key := by
    have sameInbox : after.inbox served = network.inbox served := by
      refine Network.inbox_congr fun other isServed => replaces.others other ?_
      rintro rfl
      exact concord.ne_served isServed
    rw [Network.pending, sameInbox, replaces.outbox found outbox key]
    exact concord.flight key

theorem close_held (concord : Concord (some (id, stand)) served network history) :
    Concord none served (network.closeSocket id) history where
  registry := by
    refine concord.registry.closeSocket fun key different known => ?_
    rcases known with isHeld | isServed
    · cases isHeld
      exact absurd rfl different
    · exact Or.inr isServed
  untold key fresh := concord.untold key fresh
  orderly := concord.orderly
  client key other isHeld := by cases isHeld
  server key isServed := by
    obtain ⟨socket, found, serves⟩ := concord.server key isServed
    refine ⟨socket, ?_, serves⟩
    rw [Network.find?_closeSocket, if_neg]
    · exact found
    · rintro rfl
      exact concord.ne_served isServed
  flight key := by
    have sameInbox : (network.closeSocket id).inbox served = network.inbox served := by
      refine Network.inbox_congr fun other isServed => ?_
      rw [Network.find?_closeSocket, if_neg]
      rintro rfl
      exact concord.ne_served isServed
    refine (concord.flight key).sublist ?_
    rw [Network.pending, Network.pending, sameInbox]
    refine List.Sublist.append ?_ (List.Sublist.refl _)
    by_cases same : key = id
    · rw [Network.outbox, Network.find?_closeSocket, if_pos same]
      exact List.nil_sublist _
    · have unchanged : (network.closeSocket id).find? key = network.find? key := by
        rw [Network.find?_closeSocket, if_neg same]
      simp only [Network.outbox_congr unchanged, List.Sublist.refl]

/-- A socket is opened for a client that has none. -/
theorem open_held (concord : Concord none served network history) (context : ContextId)
    (endpoint : Endpoint) :
    Concord (some (⟨network.nextSocket⟩, .ready [])) served
      { network.addSocket ⟨network.nextSocket⟩
          (Network.freshSocket context .requester endpoint) with
        nextSocket := network.nextSocket + 1 } history := by
  let fresh : SocketId := ⟨network.nextSocket⟩
  let socket := Network.freshSocket context .requester endpoint
  have unused : network.find? fresh = none := concord.registry.find?_nextSocket
  have found (key : SocketId) : (network.addSocket fresh socket).find? key =
      (network.find? key).or (if key = fresh then some socket else none) :=
    Network.find?_addSocket_of_ne SocketRole.noConfusion key
  have old {key : SocketId} {other : NetworkSocket} (present : network.find? key = some other) :
      (network.addSocket fresh socket).find? key = some other := by
    rw [found, present]
    rfl
  have idle : ParleyEvent.progress fresh history = .idle :=
    concord.untold fresh (Nat.le_refl _)
  constructor
  · refine concord.registry.openSocket socket fun key known => ?_
    rcases known with rfl | isHeld | isServed
    · exact Or.inl rfl
    · cases isHeld
    · exact Or.inr isServed
  · intro key later
    exact concord.untold key (Nat.le_of_succ_le later)
  · exact concord.orderly
  · intro key stand isHeld
    cases isHeld
    refine ⟨socket, ?_, rfl, ?_⟩
    · change (network.addSocket fresh socket).find? fresh = some socket
      rw [found, unused, if_pos rfl]
      rfl
    · change Stand.Fits socket (ParleyEvent.progress fresh history) (.ready [])
      rw [idle]
      exact ⟨by rintro ⟨⟩, rfl, rfl, trivial⟩
  · intro key isServed
    obtain ⟨other, present, serves⟩ := concord.server key isServed
    exact ⟨other, old present, serves⟩
  · intro key
    have sameInbox : (network.addSocket fresh socket).inbox served = network.inbox served := by
      refine Network.inbox_congr fun other isServed => ?_
      obtain ⟨peer, present, -⟩ := concord.server other isServed
      rw [old present, present]
    have sameOutbox : (network.addSocket fresh socket).outbox key = network.outbox key := by
      rw [Network.outbox, Network.outbox, found]
      cases present : network.find? key with
      | some other => rfl
      | none =>
          by_cases same : key = fresh
          · rw [if_pos same]
            rfl
          · rw [if_neg same]
            rfl
    change InFlight ((network.addSocket fresh socket).pending served key) key _
    rw [Network.pending, sameInbox, sameOutbox]
    exact concord.flight key

/-- A request has left the client's socket, wherever it waits. -/
theorem transmitted_of (concord : Concord (some (id, stand)) served network history)
    (settled : (ParleyEvent.progress id history).IsSettled) {parcel : Parcel}
    (sender : parcel.sender = id) (keys : after.keys = network.keys)
    (nextSocket : after.nextSocket = network.nextSocket)
    (client : ∃ socket, after.find? id = some socket ∧ socket.role = .requester ∧
      socket.turn = .toReceive ∧ socket.composed = [] ∧ socket.inbox = [])
    (server : ∀ key old, served = some key → network.find? key = some old →
      ∃ new, after.find? key = some new ∧ new.role = old.role ∧ new.composed = old.composed ∧
        new.outbox = old.outbox ∧ new.turn = old.turn)
    (pending : ∀ key, after.pending served key =
      if key = id then network.pending served key ++ [parcel] else network.pending served key) :
    Concord (some (id, .awaiting)) served after
      (.transmitted id parcel.frames :: history) := by
  have others {key : SocketId} (different : key ≠ id) :=
    ParleyEvent.progress_transmitted_ne parcel.frames history different
  constructor
  · exact concord.registry.of_keys keys nextSocket
  · intro key fresh
    rw [nextSocket] at fresh
    have different : key ≠ id := by
      rintro rfl
      obtain ⟨socket, found, -⟩ := concord.client key stand rfl
      exact Nat.not_le_of_lt (concord.number_lt found) fresh
    rw [others different]
    exact concord.untold key fresh
  · exact ⟨settled, concord.orderly⟩
  · intro key other isHeld
    cases isHeld
    obtain ⟨socket, found, role, turn, composed, inbox⟩ := client
    refine ⟨socket, found, role, turn, composed, ?_⟩
    rw [ParleyEvent.progress_transmitted]
    exact inbox
  · intro key isServed
    obtain ⟨old, found, serves, idle⟩ := concord.server key isServed
    obtain ⟨new, found', role, composed, outbox, turn⟩ := server key old isServed found
    have different : key ≠ id := by
      rintro rfl
      exact concord.ne_served isServed
    refine ⟨new, found', ?_, (others different).trans idle⟩
    refine serves.of_eq role composed outbox turn (ParleyEvent.owed_cons _ _) ?_
    intro peer taken
    rw [others]
    · exact taken
    · rintro rfl
      exact settled.ne_taken taken
  · intro key
    rw [pending]
    by_cases same : key = id
    · subst same
      rw [if_pos rfl, ParleyEvent.progress_transmitted,
        (concord.flight key).eq_nil settled.ne_asked]
      exact Or.inr ⟨parcel, rfl, sender, rfl⟩
    · rw [if_neg same, others same]
      exact concord.flight key

theorem transmit_delivered (concord : Concord (some (id, stand)) served network history)
    (settled : (ParleyEvent.progress id history).IsSettled) {socket receiver : NetworkSocket}
    {parcel : Parcel} {sent : Network} {peer : SocketId} (found : network.find? id = some socket)
    (role : socket.role = .requester) (inbox : socket.inbox = [])
    (replaces : Network.Replaces network sent id (Network.afterSending socket))
    (sender : parcel.sender = id) (present : sent.find? peer = some receiver)
    (isResponder : receiver.role = .responder)
    (delivers : Network.Replaces sent after peer
      { receiver with inbox := receiver.inbox ++ [parcel] }) :
    Concord (some (id, .awaiting)) served after
      (.transmitted id parcel.frames :: history) := by
  have apart : peer ≠ id := by
    rintro rfl
    rw [replaces.found] at present
    cases present
    cases role.symm.trans isResponder
  have presentBefore : network.find? peer = some receiver :=
    (replaces.others peer apart).symm.trans present
  have isServed : served = some peer := by
    rcases concord.registry.known_of_find? presentBefore with isHeld | isServed
    · cases isHeld
      exact absurd rfl apart
    · exact isServed
  refine concord.transmitted_of settled sender (delivers.keys.trans replaces.keys)
    (delivers.nextSocket.trans replaces.nextSocket) ?_ ?_ ?_
  · refine ⟨Network.afterSending socket, ?_, role, ?_, rfl, inbox⟩
    · rw [delivers.others id (Ne.symm apart), replaces.found]
    · rw [Network.afterSending, role]
      rfl
  · intro key old isServed' foundOld
    rw [isServed] at isServed'
    cases isServed'
    rw [presentBefore] at foundOld
    cases foundOld
    exact ⟨_, delivers.found, rfl, rfl, rfl, rfl⟩
  · intro key
    have arrived : after.inbox served = network.inbox served ++ [parcel] := by
      rw [isServed, Network.inbox_of_find? delivers.found, Network.inbox_of_find? presentBefore]
    rw [Network.pending, delivers.outbox present rfl, replaces.outbox found rfl, arrived,
      List.filter_append, ← List.append_assoc]
    by_cases same : key = id
    · simp [same, sender, Network.pending]
    · simp [same, sender, Ne.symm same, Network.pending]

theorem transmit_waiting (concord : Concord (some (id, stand)) served network history)
    (settled : (ParleyEvent.progress id history).IsSettled) {socket : NetworkSocket}
    {parcel : Parcel} {sent : Network} (found : network.find? id = some socket)
    (role : socket.role = .requester) (inbox : socket.inbox = [])
    (replaces : Network.Replaces network sent id (Network.afterSending socket))
    (sender : parcel.sender = id)
    (waits : Network.Replaces sent after id
      { Network.afterSending socket with
        outbox := (Network.afterSending socket).outbox ++ [parcel] }) :
    Concord (some (id, .awaiting)) served after
      (.transmitted id parcel.frames :: history) := by
  have kept {key : SocketId} (isServed : served = some key) :
      after.find? key = network.find? key := by
    have apart : key ≠ id := by
      rintro rfl
      exact concord.ne_served isServed
    rw [waits.others key apart, replaces.others key apart]
  have sameInbox : after.inbox served = network.inbox served :=
    Network.inbox_congr fun key isServed => kept isServed
  refine concord.transmitted_of settled sender (waits.keys.trans replaces.keys)
    (waits.nextSocket.trans replaces.nextSocket) ?_ ?_ ?_
  · refine ⟨_, waits.found, role, ?_, rfl, inbox⟩
    rw [Network.afterSending, role]
    rfl
  · intro key old isServed foundOld
    exact ⟨old, (kept isServed).trans foundOld, rfl, rfl, rfl, rfl⟩
  · intro key
    by_cases same : key = id
    · -- Nothing was under way, so the peer's inbox has nothing of this socket either.
      have nothing := (concord.flight id).eq_nil settled.ne_asked
      rw [same, if_pos rfl, nothing, Network.pending, sameInbox,
        Network.outbox_of_find? waits.found]
      rw [Network.pending, List.append_eq_nil_iff] at nothing
      rw [nothing.2]
      have empty : (Network.afterSending socket).outbox = [] := by
        rw [← nothing.1, Network.outbox_of_find? found]
        rfl
      rw [empty]
      rfl
    · rw [if_neg same, Network.pending, Network.pending, sameInbox,
        Network.outbox_congr (waits.others key same), replaces.outbox found rfl]

/-- The last frame of a request leaves the client's socket. -/
theorem transmit {composed : List ByteArray}
    (concord : Concord (some (id, .ready composed)) served network history)
    {socket : NetworkSocket} {parcel : Parcel} {sent : Network}
    (found : network.find? id = some socket)
    (replaces : Network.Replaces network sent id (Network.afterSending socket))
    (sender : parcel.sender = id) (endpoint : Endpoint) :
    Concord (some (id, .awaiting)) served (sent.sendRequest endpoint parcel)
      (.transmitted id parcel.frames :: history) := by
  obtain ⟨old, found', role, -, -, inbox, settled⟩ := concord.client id _ rfl
  rw [found] at found'
  cases found'
  have distinct : sent.keys.Nodup := by
    rw [replaces.keys]
    exact concord.registry.distinct
  have present : sent.find? parcel.sender = some (Network.afterSending socket) := by
    rw [sender]
    exact replaces.found
  rcases Network.sendRequest_cases endpoint distinct present with
    ⟨peer, responder, foundPeer, rolePeer, delivers⟩ | waits
  · exact concord.transmit_delivered settled found role inbox replaces sender foundPeer rolePeer
      delivers
  · rw [sender] at waits
    exact concord.transmit_waiting settled found role inbox replaces sender waits

/-! ## The peer's steps -/

theorem close_served (concord : Concord held (some id) network history) :
    Concord held none (network.closeSocket id) history where
  registry := by
    refine concord.registry.closeSocket fun key different known => ?_
    rcases known with isHeld | isServed
    · exact Or.inl isHeld
    · cases isServed
      exact absurd rfl different
  untold key fresh := concord.untold key fresh
  orderly := concord.orderly
  client key stand isHeld := by
    subst isHeld
    obtain ⟨socket, found, fits⟩ := concord.client key stand rfl
    refine ⟨socket, ?_, fits⟩
    rw [Network.find?_closeSocket, if_neg]
    · exact found
    · rintro rfl
      exact concord.ne_served rfl
  server key isServed := by cases isServed
  flight key := by
    refine (concord.flight key).sublist ?_
    rw [Network.pending, Network.pending]
    refine List.Sublist.append ?_ (List.nil_sublist _)
    rw [Network.outbox, Network.find?_closeSocket]
    by_cases same : key = id
    · rw [if_pos same]
      exact List.nil_sublist _
    · rw [if_neg same]
      exact List.Sublist.refl _

/-- What the peer reads next is the only request of its sender that is under way. -/
theorem asked_of_inbox (concord : Concord held (some id) network history)
    {socket : NetworkSocket} {parcel : Parcel} {later : List Parcel}
    (found : network.find? id = some socket) (inbox : socket.inbox = parcel :: later) :
    network.outbox parcel.sender = [] ∧ later.filter (·.sender = parcel.sender) = [] ∧
      ParleyEvent.progress parcel.sender history = .asked parcel.frames := by
  have inFlight := concord.flight parcel.sender
  have split : network.pending (some id) parcel.sender =
      network.outbox parcel.sender ++
        parcel :: later.filter (·.sender = parcel.sender) := by
    rw [Network.pending, Network.inbox_of_find? found, inbox]
    simp
  rw [split] at inFlight
  rcases inFlight with impossible | ⟨single, same, -, asked⟩
  · simp at impossible
  · rcases List.append_eq_singleton_iff.mp same with ⟨none, rest⟩ | ⟨-, impossible⟩
    · obtain ⟨isSingle, nothing⟩ := List.cons.inj rest
      rw [← isSingle] at asked
      exact ⟨none, nothing, asked⟩
    · cases impossible

theorem take (concord : Concord held (some id) network history) {socket : NetworkSocket}
    {parcel : Parcel} {later : List Parcel} (found : network.find? id = some socket)
    (inbox : socket.inbox = parcel :: later)
    (replaces : Network.Replaces network after id (Network.afterMessage socket parcel later))
    {request : Reading} (isOf : request.IsOf parcel.frames) :
    Concord held (some id) after (.taken parcel.sender request :: history) := by
  obtain ⟨old, found', serves, idle⟩ := concord.server id rfl
  rw [found] at found'
  cases found'
  obtain ⟨role, whole, empty, -⟩ := serves
  obtain ⟨unsent, unread, asked⟩ := concord.asked_of_inbox found inbox
  have others {key : SocketId} (different : key ≠ parcel.sender) :=
    ParleyEvent.progress_taken_ne request history different
  have own : ParleyEvent.progress parcel.sender (.taken parcel.sender request :: history) =
      .taken := ParleyEvent.progress_taken request history
  have apart : id ≠ parcel.sender := by
    intro same
    rw [← same, idle] at asked
    cases asked
  constructor
  · exact concord.registry.of_keys replaces.keys replaces.nextSocket
  · intro key fresh
    rw [replaces.nextSocket] at fresh
    have idle := concord.untold key fresh
    rw [others]
    · exact idle
    · rintro rfl
      cases asked.symm.trans idle
  · exact ⟨⟨parcel.frames, asked, isOf⟩, concord.orderly⟩
  · intro key stand isHeld
    subst isHeld
    obtain ⟨client, present, isRequester, fits⟩ := concord.client key stand rfl
    refine ⟨client, ?_, isRequester, ?_⟩
    · rw [replaces.others key, present]
      rintro rfl
      exact concord.ne_served rfl
    · by_cases same : key = parcel.sender
      · subst same
        rw [own]
        rw [asked] at fits
        exact fits.taken
      · rw [others same]
        exact fits
  · intro key isServed
    cases isServed
    refine ⟨_, replaces.found, ⟨role, whole, empty, ?_⟩, (others apart).trans idle⟩
    intro peer toSend
    rw [Network.afterMessage, role] at toSend
    cases toSend
    exact ⟨parcel.sender, rfl, ParleyEvent.owed_cons _ _, own⟩
  · intro key
    have inFlight := concord.flight key
    rw [Network.pending, replaces.outbox found rfl, Network.inbox_of_find? replaces.found]
    rw [Network.pending, Network.inbox_of_find? found, inbox] at inFlight
    by_cases same : key = parcel.sender
    · subst same
      refine Or.inl ?_
      rw [unsent]
      exact unread
    · rw [others same]
      refine inFlight.sublist (List.Sublist.append (List.Sublist.refl _) ?_)
      exact (List.sublist_cons_self parcel later).filter _

/-- An answer has left the peer's socket; the one that asked gets it if it is still there. -/
theorem answered_of (concord : Concord held (some id) network history) {peer : SocketId}
    {frames : List ByteArray} {sent : NetworkSocket}
    (owed : ParleyEvent.owed history = some peer)
    (taken : ParleyEvent.progress peer history = .taken) (keys : after.keys = network.keys)
    (nextSocket : after.nextSocket = network.nextSocket)
    (client : ∀ key old, key ≠ id → network.find? key = some old →
      ∃ new, after.find? key = some new ∧ new.role = old.role ∧ new.turn = old.turn ∧
        new.composed = old.composed ∧
        if key = peer then ∃ parcel, new.inbox = old.inbox ++ [parcel] ∧ parcel.frames = frames
        else new.inbox = old.inbox)
    (found : after.find? id = some sent) (role : sent.role = .responder)
    (turn : sent.turn = .toReceive) (composed : sent.composed = []) (outbox : sent.outbox = [])
    (pending : ∀ key, after.pending (some id) key = network.pending (some id) key) :
    Concord held (some id) after (.answered peer frames :: history) := by
  have others {key : SocketId} (different : key ≠ peer) :=
    ParleyEvent.progress_answered_ne frames history different
  constructor
  · exact concord.registry.of_keys keys nextSocket
  · intro key fresh
    rw [nextSocket] at fresh
    have idle := concord.untold key fresh
    rw [others]
    · exact idle
    · rintro rfl
      cases taken.symm.trans idle
  · exact ⟨⟨taken, owed⟩, concord.orderly⟩
  · intro key stand isHeld
    subst isHeld
    obtain ⟨old, present, isRequester, fits⟩ := concord.client key stand rfl
    have apart : key ≠ id := by
      rintro rfl
      exact concord.ne_served rfl
    obtain ⟨new, found', role', turn', composed', inbox'⟩ := client key old apart present
    refine ⟨new, found', role'.trans isRequester, ?_⟩
    by_cases same : key = peer
    · subst same
      rw [taken] at fits
      rw [if_pos rfl] at inbox'
      obtain ⟨parcel, arrived, rfl⟩ := inbox'
      rw [ParleyEvent.progress_answered]
      exact fits.answered turn' composed' arrived
    · rw [if_neg same] at inbox'
      rw [others same]
      unfold Stand.Fits at fits ⊢
      rw [turn', composed', inbox']
      exact fits
  · intro key isServed
    cases isServed
    obtain ⟨socket, present, serves, idle⟩ := concord.server id rfl
    have apart : id ≠ peer := by
      rintro rfl
      cases taken.symm.trans idle
    refine ⟨sent, found, ⟨role, composed, outbox, ?_⟩, (others apart).trans idle⟩
    intro other toSend
    cases turn.symm.trans toSend
  · intro key
    rw [pending]
    have inFlight := concord.flight key
    by_cases same : key = peer
    · subst same
      rw [taken] at inFlight
      refine Or.inl (inFlight.eq_nil ?_)
      rintro frames ⟨⟩
    · rw [others same]
      exact inFlight

theorem answer (concord : Concord held (some id) network history) {socket : NetworkSocket}
    {peer : SocketId} {sent : Network} (found : network.find? id = some socket)
    (turn : socket.turn = .toSend (some peer))
    (replaces : Network.Replaces network sent id (Network.afterSending socket))
    (parcel : Parcel) :
    Concord held (some id) (sent.deliver parcel peer)
      (.answered peer parcel.frames :: history) := by
  obtain ⟨old, found', serves, idle⟩ := concord.server id rfl
  rw [found] at found'
  cases found'
  obtain ⟨role, whole, empty, owes⟩ := serves
  obtain ⟨owedTo, isPeer, owed, taken⟩ := owes _ turn
  cases isPeer
  have apart : id ≠ peer := by
    rintro rfl
    cases taken.symm.trans idle
  have awaits : (Network.afterSending socket).turn = .toReceive := by
    rw [Network.afterSending, role]
    rfl
  have sameOutbox (key : SocketId) : sent.outbox key = network.outbox key :=
    replaces.outbox found rfl key
  have sameInbox : sent.inbox (some id) = network.inbox (some id) := by
    rw [Network.inbox_of_find? replaces.found, Network.inbox_of_find? found]
    rfl
  rcases Network.deliver_cases sent parcel peer with ⟨gone, alike⟩ | ⟨receiver, present, delivers⟩
  · refine concord.answered_of owed taken (alike.keys.trans replaces.keys)
      (alike.nextSocket.trans replaces.nextSocket) ?_ ((alike.found id).trans replaces.found)
      role awaits rfl empty ?_
    · intro key old different present
      refine ⟨old, ?_, rfl, rfl, rfl, ?_⟩
      · rw [alike.found, replaces.others key different, present]
      · rw [if_neg]
        rintro rfl
        rw [replaces.others key different, present] at gone
        cases gone
    · intro key
      rw [Network.pending, Network.pending, Network.outbox_congr (alike.found key),
        Network.inbox_congr fun other _ => alike.found other, sameOutbox, sameInbox]
  · refine concord.answered_of owed taken (delivers.keys.trans replaces.keys)
      (delivers.nextSocket.trans replaces.nextSocket) ?_
      ((delivers.others id apart).trans replaces.found) role awaits rfl empty ?_
    · intro key old different foundOld
      by_cases same : key = peer
      · subst same
        rw [replaces.others key different, foundOld] at present
        cases present
        refine ⟨_, delivers.found, rfl, rfl, rfl, ?_⟩
        rw [if_pos rfl]
        exact ⟨parcel, rfl, rfl⟩
      · refine ⟨old, ?_, rfl, rfl, rfl, by rw [if_neg same]⟩
        rw [delivers.others key same, replaces.others key different, foundOld]
    · intro key
      have inbox : (sent.deliver parcel peer).inbox (some id) = sent.inbox (some id) := by
        refine Network.inbox_congr fun other isServed => ?_
        cases isServed
        exact delivers.others id apart
      rw [Network.pending, Network.pending, delivers.outbox present rfl, inbox, sameOutbox,
        sameInbox]

/-- Requests that are fetched for a new responder are not under way twice. -/
theorem fetched_sublist (concord : Concord held none network history) (port : UInt16)
    (key : SocketId) :
    ((match network.find? key with
        | some other => (Network.fetched port other).outbox
        | none => []) ++ (network.waitingFor port).filter (·.sender = key)).Sublist
      (network.pending none key) := by
  rcases concord.registry.sockets_eq with empty | ⟨id, client, -, present, single⟩
  · rw [Network.waitingFor, Network.find?, empty]
    exact List.nil_sublist _
  · have waiting : network.waitingFor port =
        if client.endpoint.isLocal && client.endpoint.port == port then client.outbox else [] := by
      rw [Network.waitingFor, single]
      exact List.append_nil _
    rw [waiting]
    by_cases same : key = id
    · subst same
      rw [present, Network.pending, Network.outbox_of_find? present]
      refine List.Sublist.trans ?_ (List.sublist_append_left _ _)
      unfold Network.fetched
      dsimp only
      split
      · exact List.filter_sublist
      · simp only [List.filter_nil, List.append_nil, List.Sublist.refl]
    · -- What waits with the client's socket was sent by it.
      have own : client.outbox.filter (·.sender = key) = [] := by
        have inFlight := concord.flight id
        rw [Network.pending, Network.outbox_of_find? present] at inFlight
        rcases inFlight with empty | ⟨parcel, only, sender, -⟩
        · rw [(List.append_eq_nil_iff.mp empty).1]
          rfl
        · rcases List.append_eq_singleton_iff.mp only with ⟨none, -⟩ | ⟨one, -⟩
          · rw [none]
            rfl
          · rw [one]
            simp [sender, Ne.symm same]
      have absent : network.find? key = none := by
        rw [Network.find?, single, List.lookup_cons, beq_false_of_ne same]
        rfl
      rw [absent]
      dsimp only
      split
      · rw [own]
        exact List.nil_sublist _
      · exact List.nil_sublist _

/-- The peer opens a socket; the request that waited for one, if there is any, goes to it. -/
theorem open_served (concord : Concord held none network history) (context : ContextId)
    (endpoint : Endpoint) :
    Concord held (some ⟨network.nextSocket⟩)
      { network.addSocket ⟨network.nextSocket⟩
          (Network.freshSocket context .responder endpoint) with
        nextSocket := network.nextSocket + 1 } history := by
  let fresh : SocketId := ⟨network.nextSocket⟩
  let socket := Network.freshSocket context .responder endpoint
  have unused : network.find? fresh = none := concord.registry.find?_nextSocket
  have found (key : SocketId) : (network.addSocket fresh socket).find? key =
      ((network.find? key).map (Network.fetched endpoint.port)).or
        (if key = fresh then some { socket with inbox := network.waitingFor endpoint.port }
          else none) :=
    Network.find?_addSocket_responder rfl key
  have foundFresh : (network.addSocket fresh socket).find? fresh =
      some { socket with inbox := network.waitingFor endpoint.port } := by
    rw [found, unused, if_pos rfl]
    rfl
  constructor
  · refine concord.registry.openSocket socket fun key known => ?_
    rcases known with rfl | isHeld | isServed
    · exact Or.inr rfl
    · exact Or.inl isHeld
    · cases isServed
  · intro key later
    exact concord.untold key (Nat.le_of_succ_le later)
  · exact concord.orderly
  · intro key stand isHeld
    obtain ⟨client, present, isRequester, fits⟩ := concord.client key stand isHeld
    refine ⟨Network.fetched endpoint.port client, ?_, ?_, ?_⟩
    · change (network.addSocket fresh socket).find? key = _
      rw [found, present]
      rfl
    · unfold Network.fetched
      split <;> exact isRequester
    · unfold Network.fetched
      split <;> exact fits
  · intro key isServed
    cases isServed
    refine ⟨_, foundFresh, ⟨rfl, rfl, rfl, by rintro peer ⟨⟩⟩, ?_⟩
    exact concord.untold fresh (Nat.le_refl _)
  · intro key
    refine (concord.flight key).sublist ?_
    have emptied : (network.addSocket fresh socket).outbox key =
        match network.find? key with
        | some other => (Network.fetched endpoint.port other).outbox
        | none => [] := by
      rw [Network.outbox, found]
      cases network.find? key with
      | some other => rfl
      | none =>
          by_cases same : key = fresh
          · rw [if_pos same]
            rfl
          · rw [if_neg same]
            rfl
    change ((network.addSocket fresh socket).pending (some fresh) key).Sublist _
    rw [Network.pending, emptied, Network.inbox_of_find? foundFresh]
    exact concord.fetched_sublist endpoint.port key

end Concord

end TaskLink
