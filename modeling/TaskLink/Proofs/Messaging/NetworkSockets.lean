import TaskLink.Messaging.Network
import TaskLink.Messaging.Responder

/-!
# Sockets of a network

What the operations of a network do to the sockets that can be looked up in
it.  An operation on a socket replaces that socket and leaves the others as
they are; only a complete message reaches a second one.
-/

namespace TaskLink

def Parcel.frames (parcel : Parcel) : List ByteArray :=
  parcel.frame :: parcel.following

def joinFrames : List ByteArray → ByteArray
  | [] => .empty
  | first :: rest => rest.foldl (· ++ ·) first

/-! ## Joined and apart -/

theorem joinFrames_concat {frames : List ByteArray} (begun : frames ≠ []) (frame : ByteArray) :
    joinFrames (frames ++ [frame]) = joinFrames frames ++ frame := by
  cases frames with
  | nil => exact absurd rfl begun
  | cons first rest =>
      rw [List.cons_append, joinFrames, joinFrames, List.foldl_append]
      rfl

namespace Fabric

variable {σ : Type} (fabric : Fabric σ)

theorem joinFollowing_eq (socket : SocketId) (count : Nat) {frames : List ByteArray}
    (begun : frames ≠ []) (s : σ) :
    fabric.joinFollowing socket count (joinFrames frames) s =
      ((fabric.collectFollowing socket count frames s).1.map joinFrames,
        (fabric.collectFollowing socket count frames s).2) := by
  induction count generalizing frames s with
  | zero => rfl
  | succ count ih =>
      unfold joinFollowing collectFollowing
      cases fabric.receive socket s with
      | mk result after =>
          cases result with
          | error fault => rfl
          | ok frame =>
              dsimp only
              rw [← joinFrames_concat begun]
              exact ih (List.append_ne_nil_of_right_ne_nil _ (List.cons_ne_nil _ _)) after

/-- A message read as one payload is one read frame by frame and joined. -/
theorem receiveJoined_eq (socket : SocketId) (s : σ) :
    fabric.receiveJoined socket s =
      ((fabric.receiveFrames socket s).1.map joinFrames,
        (fabric.receiveFrames socket s).2) := by
  unfold receiveJoined receiveFrames
  cases fabric.receive socket s with
  | mk result after =>
      cases result with
      | error fault => rfl
      | ok frame =>
          exact fabric.joinFollowing_eq socket frame.following (List.cons_ne_nil frame.bytes [])
            after

end Fabric

namespace Network

/-! ## Looking up -/

def keys (network : Network) : List SocketId :=
  network.sockets.map Prod.fst

/-- Looking up finds what became of an entry, if the names are kept. -/
theorem lookup_map {step : SocketId × NetworkSocket → SocketId × NetworkSocket}
    (change : SocketId → NetworkSocket → NetworkSocket)
    (keeps : ∀ name socket, step (name, socket) = (name, change name socket))
    (entries : List (SocketId × NetworkSocket)) (key : SocketId) :
    (entries.map step).lookup key = (entries.lookup key).map (change key) := by
  induction entries with
  | nil => rfl
  | cons entry rest ih =>
      obtain ⟨name, socket⟩ := entry
      rw [List.map_cons, keeps, List.lookup_cons, List.lookup_cons, ih]
      by_cases same : key = name
      · subst same
        rw [beq_self_eq_true]
        rfl
      · rw [beq_false_of_ne same]

theorem find?_modify (network : Network) (id key : SocketId)
    (change : NetworkSocket → NetworkSocket) :
    (network.modify id change).find? key =
      if key = id then (network.find? key).map change else network.find? key := by
  unfold find? modify
  rw [lookup_map fun name socket => if name = id then change socket else socket]
  · by_cases same : key = id
    · simp [same]
    · simp [same]
  · intro name socket
    rfl

theorem keys_modify (network : Network) (id : SocketId)
    (change : NetworkSocket → NetworkSocket) : (network.modify id change).keys = network.keys := by
  simp [keys, modify, Function.comp_def]

theorem find?_closeSocket (network : Network) (id key : SocketId) :
    (network.closeSocket id).find? key = if key = id then none else network.find? key := by
  unfold find? closeSocket
  dsimp only
  induction network.sockets with
  | nil => simp
  | cons entry rest ih =>
      obtain ⟨name, socket⟩ := entry
      by_cases gone : name = id
      · subst gone
        simp only [List.filter_cons, bne_self_eq_false, Bool.false_eq_true, ↓reduceIte, ih,
          List.lookup_cons]
        by_cases same : key = name
        · rw [if_pos same, if_pos same]
        · rw [if_neg same, if_neg same, beq_false_of_ne same]
      · simp only [List.filter_cons, bne_iff_ne, ne_eq, gone, not_false_eq_true, ↓reduceIte,
          List.lookup_cons, ih]
        by_cases same : key = name
        · subst same
          simp [gone]
        · rw [beq_false_of_ne same]

theorem mem_keys_iff {network : Network} {id : SocketId} :
    id ∈ network.keys ↔ ∃ socket, network.find? id = some socket := by
  rw [← Option.isSome_iff_exists, find?, List.lookup_isSome_iff, keys, List.mem_map]
  constructor
  · rintro ⟨entry, member, rfl⟩
    exact ⟨entry, member, beq_self_eq_true _⟩
  · rintro ⟨entry, member, same⟩
    exact ⟨entry, member, (eq_of_beq same).symm⟩

theorem find?_of_mem {network : Network} (distinct : network.keys.Nodup) {id : SocketId}
    {socket : NetworkSocket} (member : (id, socket) ∈ network.sockets) :
    network.find? id = some socket := by
  obtain ⟨before, after, split⟩ := List.append_of_mem member
  refine List.lookup_eq_some_iff.mpr ⟨before, after, split, fun entry earlier => ?_⟩
  rw [keys, split, List.map_append, List.nodup_append] at distinct
  have different := distinct.2.2 entry.1 (List.mem_map_of_mem earlier) id
    (List.mem_map_of_mem List.mem_cons_self)
  simpa using different.symm

/-- A socket found by its role and port is one that can be looked up. -/
theorem find?_of_boundTo? {network : Network} (distinct : network.keys.Nodup)
    {role : SocketRole} {port : UInt16} {id : SocketId}
    (bound : network.boundTo? role port = some id) :
    ∃ socket, network.find? id = some socket ∧ socket.role = role := by
  unfold boundTo? at bound
  obtain ⟨⟨key, socket⟩, found, same⟩ := Option.map_eq_some_iff.mp bound
  have fits := List.find?_some found
  simp only [Bool.and_eq_true, decide_eq_true_eq] at fits
  dsimp only at same
  subst same
  exact ⟨socket, find?_of_mem distinct (List.mem_of_find?_eq_some found), fits.1⟩

/-! ## Replacing a socket -/

/-- The networks differ in the state of one socket, which is given, and in the time. -/
structure Replaces (before after : Network) (id : SocketId) (socket : NetworkSocket) : Prop where
  keys : after.keys = before.keys
  nextSocket : after.nextSocket = before.nextSocket
  terminated : after.terminated = before.terminated
  found : after.find? id = some socket
  others : ∀ other, other ≠ id → after.find? other = before.find? other

namespace Replaces

variable {before middle after : Network} {id : SocketId} {socket : NetworkSocket}

theorem modify (found : before.find? id = some socket) (change : NetworkSocket → NetworkSocket) :
    Replaces before (before.modify id change) id (change socket) where
  keys := keys_modify before id change
  nextSocket := rfl
  terminated := rfl
  found := by rw [find?_modify, if_pos rfl, found]; rfl
  others other different := by rw [find?_modify, if_neg different]

theorem elapse (replaces : Replaces before after id socket) (nanos : Nat) :
    Replaces before (after.elapse nanos) id socket :=
  ⟨replaces.keys, replaces.nextSocket, replaces.terminated, replaces.found, replaces.others⟩

theorem trans {first second : NetworkSocket} (one : Replaces before middle id first)
    (two : Replaces middle after id second) : Replaces before after id second where
  keys := two.keys.trans one.keys
  nextSocket := two.nextSocket.trans one.nextSocket
  terminated := two.terminated.trans one.terminated
  found := two.found
  others other different := (two.others other different).trans (one.others other different)

end Replaces

/-! ## Usable sockets -/

theorem usable_eq_ok_iff {network : Network} {id : SocketId} {socket : NetworkSocket} :
    network.usable id = .ok socket ↔
      network.find? id = some socket ∧ network.isTerminated socket.context = false := by
  unfold usable
  cases network.find? id with
  | none => simp
  | some other =>
      dsimp only
      split
      · next ended =>
          constructor
          · intro impossible
            cases impossible
          · rintro ⟨same, alive⟩
            cases same
            cases alive.symm.trans ended
      · next alive =>
          constructor
          · intro same
            cases same
            exact ⟨rfl, Bool.eq_false_iff.mpr alive⟩
          · rintro ⟨same, -⟩
            cases same
            rfl

theorem Replaces.usable {before after : Network} {id : SocketId} {old socket : NetworkSocket}
    (replaces : Replaces before after id socket) (was : before.usable id = .ok old)
    (context : socket.context = old.context) : after.usable id = .ok socket := by
  refine usable_eq_ok_iff.mpr ⟨replaces.found, ?_⟩
  rw [context, isTerminated, replaces.terminated]
  exact (usable_eq_ok_iff.mp was).2

theorem Replaces.usable_other {before after : Network} {id key : SocketId}
    {changed socket : NetworkSocket} (replaces : Replaces before after id changed)
    (different : key ≠ id) (was : before.usable key = .ok socket) :
    after.usable key = .ok socket := by
  obtain ⟨found, alive⟩ := usable_eq_ok_iff.mp was
  refine usable_eq_ok_iff.mpr ⟨(replaces.others key different).trans found, ?_⟩
  rwa [isTerminated, replaces.terminated]

/-- A poll of a socket that is ready does not wait. -/
theorem poll_of_isReady {network : Network} {id : SocketId} {socket : NetworkSocket}
    (usable : network.usable id = .ok socket) {readiness : Readiness}
    (ready : socket.isReady readiness = true) (wait : Wait) :
    network.poll id readiness wait = (.ok true, network.tick) := by
  have isReady : network.isReady id readiness = .ok true := by
    rw [Network.isReady, usable]
    exact congrArg Except.ok ready
  rw [poll, isReady]

/-! ## Receiving -/

theorem receive_last {network : Network} {id sender : SocketId} {socket : NetworkSocket}
    {frame : ByteArray} {later : List Parcel} (usable : network.usable id = .ok socket)
    (turn : socket.turn = .toReceive) (inbox : socket.inbox = ⟨sender, frame, []⟩ :: later) :
    ∃ after, network.receive id = (.ok ⟨frame, 0⟩, after) ∧
      Replaces network after id
        { socket with inbox := later, turn := turnAfterReceive sender socket.role } := by
  have found := (usable_eq_ok_iff.mp usable).1
  refine ⟨_, ?_, (Replaces.modify found fun socket =>
    { socket with inbox := later, turn := turnAfterReceive sender socket.role }).elapse stepNanos⟩
  unfold receive
  simp only [usable, turn, inbox]
  rfl

theorem receive_more {network : Network} {id sender : SocketId} {socket : NetworkSocket}
    {frame next : ByteArray} {rest : List ByteArray} {later : List Parcel}
    (usable : network.usable id = .ok socket) (turn : socket.turn = .toReceive)
    (inbox : socket.inbox = ⟨sender, frame, next :: rest⟩ :: later) :
    ∃ after, network.receive id = (.ok ⟨frame, rest.length + 1⟩, after) ∧
      Replaces network after id { socket with inbox := ⟨sender, next, rest⟩ :: later } := by
  have found := (usable_eq_ok_iff.mp usable).1
  refine ⟨_, ?_, (Replaces.modify found fun socket =>
    { socket with inbox := ⟨sender, next, rest⟩ :: later }).elapse stepNanos⟩
  unfold receive
  simp only [usable, turn, inbox]
  rfl

theorem receive_empty {network : Network} {id : SocketId} {socket : NetworkSocket}
    (usable : network.usable id = .ok socket) (turn : socket.turn = .toReceive)
    (empty : socket.inbox = []) : network.receive id = (.error .wouldBlock, network) := by
  unfold receive
  simp only [usable, turn, empty]

theorem receive_out_of_turn {network : Network} {id : SocketId} {socket : NetworkSocket}
    {peer : Option SocketId} (usable : network.usable id = .ok socket)
    (turn : socket.turn = .toSend peer) :
    network.receive id = (.error (outOfTurn socket.role), network) := by
  unfold receive
  simp only [usable, turn]

/-- Receiving fails without a trace, or there is a message and its turn. -/
theorem receive_cases (network : Network) (id : SocketId) :
    (∃ fault, network.receive id = (.error fault, network)) ∨
    (∃ socket parcel later, network.usable id = .ok socket ∧ socket.turn = .toReceive ∧
      socket.inbox = parcel :: later) := by
  unfold receive
  cases usable : network.usable id with
  | error fault => exact Or.inl ⟨fault, rfl⟩
  | ok socket =>
      cases turn : socket.turn with
      | toSend peer => exact Or.inl ⟨outOfTurn socket.role, by simp only [turn]⟩
      | toReceive =>
          cases inbox : socket.inbox with
          | nil => exact Or.inl ⟨.wouldBlock, by simp only [turn, inbox]⟩
          | cons parcel later => exact Or.inr ⟨socket, parcel, later, rfl, turn, inbox⟩

def afterMessage (socket : NetworkSocket) (parcel : Parcel) (later : List Parcel) : NetworkSocket :=
  { socket with inbox := later, turn := turnAfterReceive parcel.sender socket.role }

theorem collectFollowing_eq {network : Network} {id sender : SocketId} {socket : NetworkSocket}
    {next : ByteArray} {rest : List ByteArray} {later : List Parcel}
    (usable : network.usable id = .ok socket) (turn : socket.turn = .toReceive)
    (inbox : socket.inbox = ⟨sender, next, rest⟩ :: later) (frames : List ByteArray) :
    ∃ after, fabric.collectFollowing id (rest.length + 1) frames network =
        (.ok (frames ++ next :: rest), after) ∧
      Replaces network after id (afterMessage socket ⟨sender, next, rest⟩ later) := by
  induction rest generalizing network socket next frames with
  | nil =>
      obtain ⟨after, received, replaces⟩ := receive_last usable turn inbox
      refine ⟨after, ?_, replaces⟩
      have step : fabric.receive id network = (.ok ⟨next, 0⟩, after) := received
      rw [List.length_nil, Fabric.collectFollowing, step]
      rfl
  | cons second rest ih =>
      obtain ⟨middle, received, first⟩ := receive_more usable turn inbox
      obtain ⟨after, collected, second⟩ :=
        ih (first.usable usable rfl) turn rfl (frames ++ [next])
      refine ⟨after, ?_, first.trans second⟩
      have step : fabric.receive id network = (.ok ⟨next, rest.length + 1⟩, middle) := received
      rw [List.length_cons, Fabric.collectFollowing, step]
      dsimp only
      rw [collected, List.append_assoc]
      rfl

theorem receiveFrames_eq {network : Network} {id : SocketId} {socket : NetworkSocket}
    {parcel : Parcel} {later : List Parcel} (usable : network.usable id = .ok socket)
    (turn : socket.turn = .toReceive) (inbox : socket.inbox = parcel :: later) :
    ∃ after, fabric.receiveFrames id network = (.ok parcel.frames, after) ∧
      Replaces network after id (afterMessage socket parcel later) := by
  obtain ⟨sender, frame, following⟩ := parcel
  cases following with
  | nil =>
      obtain ⟨after, received, replaces⟩ := receive_last usable turn inbox
      refine ⟨after, ?_, replaces⟩
      have step : fabric.receive id network = (.ok ⟨frame, 0⟩, after) := received
      rw [Fabric.receiveFrames, step]
      rfl
  | cons next rest =>
      obtain ⟨middle, received, first⟩ := receive_more usable turn inbox
      obtain ⟨after, collected, second⟩ :=
        collectFollowing_eq (first.usable usable rfl) turn rfl [frame]
      refine ⟨after, ?_, first.trans second⟩
      have step : fabric.receive id network = (.ok ⟨frame, rest.length + 1⟩, middle) := received
      rw [Fabric.receiveFrames, step]
      exact collected

/-! ## Nothing replaced -/

structure Alike (before after : Network) : Prop where
  keys : after.keys = before.keys
  nextSocket : after.nextSocket = before.nextSocket
  found : ∀ id, after.find? id = before.find? id

theorem Alike.refl (network : Network) : Alike network network :=
  ⟨rfl, rfl, fun _ => rfl⟩

theorem Alike.elapse (network : Network) (nanos : Nat) : Alike network (network.elapse nanos) :=
  ⟨rfl, rfl, fun _ => rfl⟩

theorem poll_alike (network : Network) (id : SocketId) (readiness : Readiness) (wait : Wait) :
    Alike network (network.poll id readiness wait).2 := by
  unfold poll
  cases network.isReady id readiness with
  | error fault => exact Alike.refl network
  | ok ready => cases ready <;> exact ⟨rfl, rfl, fun _ => rfl⟩

/-! ## Sending -/

theorem sender_parcelOf (sender : SocketId) (last : ByteArray) (composed : List ByteArray) :
    (parcelOf sender last composed).sender = sender := by
  cases composed <;> rfl

theorem frames_parcelOf (sender : SocketId) (last : ByteArray) (composed : List ByteArray) :
    (parcelOf sender last composed).frames = composed ++ [last] := by
  cases composed <;> rfl

theorem send_more {network : Network} {id : SocketId} {socket : NetworkSocket}
    {peer : Option SocketId} (usable : network.usable id = .ok socket)
    (turn : socket.turn = .toSend peer) (frame : ByteArray) :
    ∃ after, network.send id frame true = (.ok (), after) ∧
      Replaces network after id { socket with composed := socket.composed ++ [frame] } := by
  have found := (usable_eq_ok_iff.mp usable).1
  refine ⟨_, ?_, (Replaces.modify found fun socket =>
    { socket with composed := socket.composed ++ [frame] }).elapse stepNanos⟩
  unfold send
  simp only [usable, turn]
  rfl

def afterSending (socket : NetworkSocket) : NetworkSocket :=
  { socket with composed := [], turn := turnAfterSend socket.role }

/-- A publisher is the same again when it has sent. -/
theorem afterSending_of_publisher {socket : NetworkSocket} (role : socket.role = .publisher)
    (turn : socket.turn = .toSend none) (composed : socket.composed = []) :
    afterSending socket = socket := by
  obtain ⟨context, _, endpoint, _, _, inbox, outbox⟩ := socket
  cases role
  cases turn
  cases composed
  rfl

theorem send_last {network : Network} {id : SocketId} {socket : NetworkSocket}
    {peer : Option SocketId} (usable : network.usable id = .ok socket)
    (turn : socket.turn = .toSend peer) (frame : ByteArray) :
    ∃ sent, Replaces network sent id (afterSending socket) ∧
      network.send id frame false =
        (.ok (), (sent.dispatch socket (parcelOf id frame socket.composed)).tick) := by
  have found := (usable_eq_ok_iff.mp usable).1
  refine ⟨_, Replaces.modify found afterSending, ?_⟩
  unfold send
  simp only [usable, turn]
  rfl

theorem send_out_of_turn {network : Network} {id : SocketId} {socket : NetworkSocket}
    (usable : network.usable id = .ok socket) (turn : socket.turn = .toReceive)
    (frame : ByteArray) (more : Bool) :
    network.send id frame more = (.error (outOfTurn socket.role), network) := by
  unfold send
  simp only [usable, turn]

/-- Sending fails without a trace, or the socket has its turn. -/
theorem send_cases (network : Network) (id : SocketId) (frame : ByteArray) (more : Bool) :
    (∃ fault, network.send id frame more = (.error fault, network)) ∨
    (∃ socket peer, network.usable id = .ok socket ∧ socket.turn = .toSend peer) := by
  unfold send
  cases usable : network.usable id with
  | error fault => exact Or.inl ⟨fault, rfl⟩
  | ok socket =>
      cases turn : socket.turn with
      | toReceive => exact Or.inl ⟨outOfTurn socket.role, by simp only [turn]⟩
      | toSend peer => exact Or.inr ⟨socket, peer, rfl, turn⟩

/-- A frame that is accepted takes the time of one operation. -/
theorem clock_of_send {network after : Network} {id : SocketId} {frame : ByteArray} {more : Bool}
    (sent : network.send id frame more = (.ok (), after)) :
    after.clock = network.clock + stepNanos := by
  unfold send at sent
  split at sent
  · cases sent
  · next socket =>
      split at sent
      · cases sent
      · split at sent
        · cases sent
          rfl
        · cases sent
          unfold dispatch sendRequest
          split <;> first | rfl | (split <;> rfl)

/-- Frames sent one after the other go out as one message behind what was composed before. -/
theorem sendFrames_eq {network : Network} {id : SocketId} {socket : NetworkSocket}
    {peer : Option SocketId} (usable : network.usable id = .ok socket)
    (turn : socket.turn = .toSend peer) (first : ByteArray) (rest : List ByteArray) :
    ∃ sent parcel, parcel.sender = id ∧ parcel.frames = socket.composed ++ first :: rest ∧
      Replaces network sent id (afterSending socket) ∧
      fabric.sendFrames id (first :: rest) network =
        (.ok (), (sent.dispatch socket parcel).tick) := by
  induction rest generalizing network socket first with
  | nil =>
      obtain ⟨sent, replaces, step⟩ := send_last usable turn first
      refine ⟨sent, _, sender_parcelOf id first socket.composed, frames_parcelOf _ _ _, replaces,
        ?_⟩
      have step' : fabric.send id first (!([] : List ByteArray).isEmpty) network = _ := step
      rw [Fabric.sendFrames, step']
      rfl
  | cons second rest ih =>
      obtain ⟨middle, step, replaces⟩ := send_more usable turn first
      obtain ⟨sent, parcel, sender, frames, second', sending⟩ :=
        ih (replaces.usable usable rfl) turn second
      refine ⟨sent, parcel, sender, ?_, replaces.trans second', ?_⟩
      · rw [frames, List.append_assoc]
        rfl
      · have step' : fabric.send id first (!(second :: rest).isEmpty) network = _ := step
        rw [Fabric.sendFrames, step']
        exact sending

/-- A message is put into the inbox of its receiver, if there still is one. -/
theorem deliver_cases (network : Network) (parcel : Parcel) (receiver : SocketId) :
    (network.find? receiver = none ∧ Alike network (network.deliver parcel receiver)) ∨
    (∃ socket, network.find? receiver = some socket ∧
      Replaces network (network.deliver parcel receiver) receiver
        { socket with inbox := socket.inbox ++ [parcel] }) := by
  cases found : network.find? receiver with
  | some socket =>
      exact Or.inr ⟨socket, rfl, Replaces.modify found fun socket =>
        { socket with inbox := socket.inbox ++ [parcel] }⟩
  | none =>
      refine Or.inl ⟨rfl, keys_modify network receiver _, rfl, fun id => ?_⟩
      rw [deliver, find?_modify]
      split
      · next same => rw [same, found]; rfl
      · rfl

/-- A request reaches a responder, or waits with its sender for one. -/
theorem sendRequest_cases {network : Network} (endpoint : Endpoint) {parcel : Parcel}
    {socket : NetworkSocket} (distinct : network.keys.Nodup)
    (found : network.find? parcel.sender = some socket) :
    (∃ id responder, network.find? id = some responder ∧ responder.role = .responder ∧
      Replaces network (network.sendRequest endpoint parcel) id
        { responder with inbox := responder.inbox ++ [parcel] }) ∨
    Replaces network (network.sendRequest endpoint parcel) parcel.sender
      { socket with outbox := socket.outbox ++ [parcel] } := by
  unfold sendRequest
  split
  · next id isLocal bound =>
      obtain ⟨responder, present, role⟩ := find?_of_boundTo? distinct bound
      refine Or.inl ⟨id, responder, present, role, ?_⟩
      exact Replaces.modify present fun socket => { socket with inbox := socket.inbox ++ [parcel] }
  · exact Or.inr (Replaces.modify found fun socket =>
      { socket with outbox := socket.outbox ++ [parcel] })

/-! ## Opening -/

def freshSocket (context : ContextId) (role : SocketRole) (endpoint : Endpoint) : NetworkSocket :=
  { context := context, role := role, endpoint := endpoint, turn := firstTurn role }

theorem openSocket_cases (network : Network) (context : ContextId) (role : SocketRole)
    (endpoint : Endpoint) (options : SocketOptions) :
    (∃ fault, network.openSocket context role endpoint options = (.error fault, network)) ∨
    network.openSocket context role endpoint options =
      (.ok ⟨network.nextSocket⟩,
        { network.addSocket ⟨network.nextSocket⟩ (freshSocket context role endpoint) with
          nextSocket := network.nextSocket + 1 }) := by
  unfold openSocket
  cases network.openFault? context role endpoint options with
  | some fault => exact Or.inl ⟨fault, rfl⟩
  | none => exact Or.inr rfl

theorem keys_addSocket (network : Network) (id : SocketId) (socket : NetworkSocket) :
    (network.addSocket id socket).keys = network.keys ++ [id] := by
  unfold addSocket
  split <;> simp [keys, Function.comp_def]

private theorem lookup_single (id key : SocketId) (socket : NetworkSocket) :
    [(id, socket)].lookup key = if key = id then some socket else none := by
  by_cases same : key = id
  · subst same
    rw [List.lookup_cons, beq_self_eq_true, if_pos rfl]
  · rw [List.lookup_cons, beq_false_of_ne same, if_neg same]
    rfl

/-- A new socket that fetches nothing is found behind the old ones. -/
theorem find?_addSocket_of_ne {network : Network} {id : SocketId} {socket : NetworkSocket}
    (role : socket.role ≠ .responder) (key : SocketId) :
    (network.addSocket id socket).find? key =
      (network.find? key).or (if key = id then some socket else none) := by
  unfold addSocket
  split
  · contradiction
  · dsimp only [find?]
    rw [List.lookup_append, lookup_single]

/-- A new responder is found behind the old sockets, which it took their requests from. -/
theorem find?_addSocket_responder {network : Network} {id : SocketId} {socket : NetworkSocket}
    (role : socket.role = .responder) (key : SocketId) :
    (network.addSocket id socket).find? key =
      ((network.find? key).map (fetched socket.endpoint.port)).or
        (if key = id then some { socket with inbox := network.waitingFor socket.endpoint.port }
          else none) := by
  unfold addSocket
  rw [role]
  dsimp only [find?]
  rw [List.lookup_append, lookup_single]
  rw [lookup_map fun _ => fetched socket.endpoint.port]
  intro name other
  rfl

/-! ## Names -/

def IsNamed (network : Network) : Prop :=
  ∀ key ∈ network.keys, key.number < network.nextSocket

theorem Replaces.isNamed {before after : Network} {id : SocketId} {socket : NetworkSocket}
    (replaces : Replaces before after id socket) (isNamed : before.IsNamed) : after.IsNamed := by
  unfold IsNamed
  rw [replaces.keys, replaces.nextSocket]
  exact isNamed

namespace IsNamed

variable {network : Network}

theorem closeSocket (isNamed : network.IsNamed) (id : SocketId) :
    (network.closeSocket id).IsNamed := by
  intro key member
  obtain ⟨socket, found⟩ := mem_keys_iff.mp member
  rw [find?_closeSocket] at found
  split at found
  · cases found
  · exact isNamed key (mem_keys_iff.mpr ⟨socket, found⟩)

/-- No socket has the name that is given out next. -/
theorem find?_nextSocket (isNamed : network.IsNamed) :
    network.find? ⟨network.nextSocket⟩ = none := by
  cases found : network.find? ⟨network.nextSocket⟩ with
  | none => rfl
  | some socket => exact absurd (isNamed _ (mem_keys_iff.mpr ⟨socket, found⟩)) (Nat.lt_irrefl _)

theorem addSocket (isNamed : network.IsNamed) (socket : NetworkSocket) :
    IsNamed
      { network.addSocket ⟨network.nextSocket⟩ socket with
        nextSocket := network.nextSocket + 1 } := by
  intro key member
  have keys := keys_addSocket network ⟨network.nextSocket⟩ socket
  change key ∈ (network.addSocket ⟨network.nextSocket⟩ socket).keys at member
  rw [keys, List.mem_append, List.mem_singleton] at member
  rcases member with old | rfl
  · exact Nat.lt_succ_of_lt (isNamed key old)
  · exact Nat.lt_succ_self _

end IsNamed

end Network

end TaskLink
