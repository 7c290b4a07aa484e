import TaskLink.Messaging.Subscriber
import TaskLink.Proofs.Messaging.NetworkSockets

/-!
# What a subscriber reads

A subscriber on a network reads the messages in its inbox one after the other,
oldest first.  Where only the newest is wanted, one call takes them all.  What
happens between two reads is left open but for the messages that arrive.
-/

namespace TaskLink

def Parcel.payload (parcel : Parcel) : ByteArray :=
  joinFrames parcel.frames

namespace Network

structure IsSubscribed (network : Network) (id : SocketId) (socket : NetworkSocket) : Prop where
  usable : network.usable id = .ok socket
  role : socket.role = .subscriber
  turn : socket.turn = .toReceive

variable {network after : Network} {id : SocketId} {socket : NetworkSocket}

theorem Replaces.refl (found : network.find? id = some socket) :
    Replaces network network id socket :=
  ⟨rfl, rfl, rfl, found, fun _ _ => rfl⟩

/-- A subscriber can still receive after its inbox has changed. -/
theorem IsSubscribed.replace (subscribed : network.IsSubscribed id socket) {inbox : List Parcel}
    (replaces : Replaces network after id { socket with inbox := inbox }) :
    after.IsSubscribed id { socket with inbox := inbox } :=
  ⟨replaces.usable subscribed.usable rfl, subscribed.role, subscribed.turn⟩

theorem IsSubscribed.afterMessage_eq (subscribed : network.IsSubscribed id socket)
    (parcel : Parcel) (later : List Parcel) :
    afterMessage socket parcel later = { socket with inbox := later } := by
  have turn : turnAfterReceive parcel.sender socket.role = socket.turn := by
    rw [subscribed.role, subscribed.turn, turnAfterReceive]
  rw [afterMessage, turn]

theorem IsSubscribed.receive_empty (subscribed : network.IsSubscribed id socket)
    (empty : socket.inbox = []) :
    fabric.receiveJoined id network = (.error .wouldBlock, network) := by
  unfold Fabric.receiveJoined
  rw [show fabric.receive id network = network.receive id from rfl,
    Network.receive_empty subscribed.usable subscribed.turn empty]

theorem IsSubscribed.receive_waiting (subscribed : network.IsSubscribed id socket)
    {parcel : Parcel} {later : List Parcel} (inbox : socket.inbox = parcel :: later) :
    ∃ after, fabric.receiveJoined id network = (.ok parcel.payload, after) ∧
      Replaces network after id { socket with inbox := later } := by
  obtain ⟨after, received, replaces⟩ :=
    receiveFrames_eq subscribed.usable subscribed.turn inbox
  refine ⟨after, ?_, ?_⟩
  · rw [Fabric.receiveJoined_eq, received]
    rfl
  · rwa [subscribed.afterMessage_eq] at replaces

theorem IsSubscribed.backlog_eq (subscribed : network.IsSubscribed id socket) :
    fabric.backlog id network = socket.inbox.length := by
  change network.backlog id = _
  rw [backlog, (usable_eq_ok_iff.mp subscribed.usable).1]

theorem poll_of_usable (usable : network.usable id = .ok socket) (readiness : Readiness)
    (wait : Wait) :
    ∃ after, network.poll id readiness wait = (.ok (socket.isReady readiness), after) ∧
      Replaces network after id socket := by
  have found := (usable_eq_ok_iff.mp usable).1
  have ready : network.isReady id readiness = .ok (socket.isReady readiness) := by
    rw [isReady, usable]
    rfl
  rw [Network.poll, ready]
  cases socket.isReady readiness with
  | true => exact ⟨_, rfl, (Replaces.refl found).elapse stepNanos⟩
  | false => exact ⟨_, rfl, ((Replaces.refl found).elapse (waitNanos wait)).elapse stepNanos⟩

/-- A poll for something to read finds out whether there is anything. -/
theorem IsSubscribed.poll (subscribed : network.IsSubscribed id socket) (wait : Wait) :
    ∃ after, network.poll id .readable wait = (.ok (!socket.inbox.isEmpty), after) ∧
      Replaces network after id socket := by
  have ready : socket.isReady .readable = !socket.inbox.isEmpty := by
    simp [NetworkSocket.isReady, subscribed.turn]
  rw [← ready]
  exact poll_of_usable subscribed.usable .readable wait

theorem IsSubscribed.pollReadable (subscribed : network.IsSubscribed id socket) (wait : Wait) :
    ∃ after, fabric.pollReadable id wait network = (.ok (!socket.inbox.isEmpty), after) ∧
      Replaces network after id socket := by
  obtain ⟨after, polled, replaces⟩ := subscribed.poll wait
  refine ⟨after, ?_, replaces⟩
  unfold Fabric.pollReadable
  rw [show fabric.poll id .readable wait network = network.poll id .readable wait from rfl, polled]

/-! ## Opening -/

theorem openFault?_subscriber {context : ContextId} {endpoint : Endpoint}
    {options : SocketOptions} :
    network.openFault? context .subscriber endpoint options = none ↔
      network.isTerminated context = false ∧ options.areRefused .subscriber = false ∧
        endpoint.isConnectable = true := by
  unfold openFault?
  cases network.isTerminated context <;> cases options.areRefused .subscriber <;>
    cases endpoint.isConnectable <;> simp [SocketRole.binds]

/-- A socket is opened exactly if nothing speaks against it. -/
theorem exists_openSocket_iff {context : ContextId} {role : SocketRole} {endpoint : Endpoint}
    {options : SocketOptions} :
    (∃ id after, network.openSocket context role endpoint options = (.ok id, after)) ↔
      network.openFault? context role endpoint options = none := by
  unfold openSocket
  cases network.openFault? context role endpoint options with
  | none => exact ⟨fun _ => rfl, fun _ => ⟨_, _, rfl⟩⟩
  | some fault =>
      constructor
      · rintro ⟨id, after, ⟨⟩⟩
      · rintro ⟨⟩

/-- A socket that is opened and fetches nothing has a name of its own. -/
theorem IsNamed.openSocket (isNamed : network.IsNamed) {role : SocketRole}
    (notResponder : role ≠ .responder) {context : ContextId} {endpoint : Endpoint}
    {options : SocketOptions}
    (opened : network.openSocket context role endpoint options = (.ok id, after)) :
    after.IsNamed ∧ after.terminated = network.terminated ∧
      after.find? id = some (freshSocket context role endpoint) ∧
      ∀ key socket, network.find? key = some socket → after.find? key = some socket := by
  let socket := freshSocket context role endpoint
  obtain ⟨fault, refused⟩ | same := openSocket_cases network context role endpoint options
  · cases refused.symm.trans opened
  cases same.symm.trans opened
  have terminated : (network.addSocket ⟨network.nextSocket⟩ socket).terminated =
      network.terminated := by
    unfold Network.addSocket
    split <;> rfl
  have found (key : SocketId) :
      (network.addSocket ⟨network.nextSocket⟩ socket).find? key =
        (network.find? key).or (if key = ⟨network.nextSocket⟩ then some socket else none) :=
    find?_addSocket_of_ne notResponder key
  refine ⟨isNamed.addSocket socket, terminated, ?_, ?_⟩
  · change (network.addSocket ⟨network.nextSocket⟩ socket).find? ⟨network.nextSocket⟩ = some socket
    rw [found, isNamed.find?_nextSocket, if_pos rfl]
    rfl
  · intro key other isOther
    change (network.addSocket ⟨network.nextSocket⟩ socket).find? key = some other
    rw [found, isOther]
    rfl

/-! ## Between two reads -/

theorem find?_broadcast (network : Network) (port : UInt16) (parcel : Parcel) (key : SocketId) :
    (network.broadcast port parcel).find? key =
      (network.find? key).map fun socket =>
        if socket.role = .subscriber && socket.endpoint.isLocal && socket.endpoint.port == port
        then { socket with inbox := socket.inbox ++ [parcel] }
        else socket := by
  unfold find? broadcast
  dsimp only
  apply lookup_map fun _ socket =>
    if socket.role = .subscriber && socket.endpoint.isLocal && socket.endpoint.port == port
    then { socket with inbox := socket.inbox ++ [parcel] }
    else socket
  intro name socket
  dsimp only
  split <;> rfl

theorem keys_broadcast (network : Network) (port : UInt16) (parcel : Parcel) :
    (network.broadcast port parcel).keys = network.keys := by
  unfold keys broadcast
  dsimp only
  rw [List.map_map]
  apply List.map_congr_left
  rintro ⟨key, socket⟩ -
  dsimp only [Function.comp_apply]
  split <;> rfl

def deliverAll (network : Network) (messages : List Parcel) (receiver : SocketId) : Network :=
  messages.foldl (fun network parcel => network.deliver parcel receiver) network

/-- Others acted meanwhile; a socket that can be used was left alone but for new messages. -/
structure Brings (before after : Network) (id : SocketId) (messages : List Parcel) : Prop where
  usable : ∀ socket, before.usable id = .ok socket →
    after.usable id = .ok { socket with inbox := socket.inbox ++ messages }
  isNamed : before.IsNamed → after.IsNamed

namespace Brings

variable {before middle : Network} {messages : List Parcel}

theorem refl (network : Network) (id : SocketId) : Brings network network id [] where
  usable socket usable := by rwa [List.append_nil]
  isNamed isNamed := isNamed

theorem trans {later : List Parcel} (one : Brings before middle id messages)
    (two : Brings middle after id later) : Brings before after id (messages ++ later) where
  usable socket usable := by
    rw [← List.append_assoc]
    exact two.usable _ (one.usable socket usable)
  isNamed isNamed := two.isNamed (one.isNamed isNamed)

theorem elapse (brings : Brings before after id messages) (nanos : Nat) :
    Brings before (after.elapse nanos) id messages :=
  ⟨brings.usable, brings.isNamed⟩

theorem of_replaces {other : SocketId} (replaces : Replaces before after other socket)
    (different : id ≠ other) : Brings before after id [] where
  usable own usable := by
    rw [List.append_nil]
    exact replaces.usable_other different usable
  isNamed := replaces.isNamed

theorem deliver (network : Network) (parcel : Parcel) (id : SocketId) :
    Brings network (network.deliver parcel id) id [parcel] where
  usable socket usable :=
    (Replaces.modify (usable_eq_ok_iff.mp usable).1 fun socket =>
      { socket with inbox := socket.inbox ++ [parcel] }).usable usable rfl
  isNamed isNamed := by
    unfold IsNamed
    rwa [Network.deliver, keys_modify]

theorem deliverAll (network : Network) (messages : List Parcel) (id : SocketId) :
    Brings network (network.deliverAll messages id) id messages := by
  induction messages generalizing network with
  | nil => exact refl network id
  | cons parcel rest ih => exact (deliver network parcel id).trans (ih _)

/-- A broadcast reaches a subscriber that is connected to the port. -/
theorem broadcast (subscribed : network.IsSubscribed id socket)
    (isLocal : socket.endpoint.isLocal = true) (parcel : Parcel) :
    Brings network (network.broadcast socket.endpoint.port parcel) id [parcel] where
  usable own usable := by
    cases subscribed.usable.symm.trans usable
    obtain ⟨found, alive⟩ := usable_eq_ok_iff.mp usable
    have isFor : (socket.role = .subscriber && socket.endpoint.isLocal &&
        socket.endpoint.port == socket.endpoint.port) = true := by
      rw [subscribed.role, isLocal, beq_self_eq_true]
      rfl
    refine usable_eq_ok_iff.mpr ⟨?_, alive⟩
    rw [find?_broadcast, found, Option.map_some, if_pos isFor]
  isNamed isNamed := by
    unfold IsNamed
    rw [keys_broadcast]
    exact isNamed

/-- What a publisher sends is brought to a subscriber that is connected to its port. -/
theorem publish {sender : SocketId} {publisher : NetworkSocket} {peer : Option SocketId}
    (usable : network.usable sender = .ok publisher) (role : publisher.role = .publisher)
    (turn : publisher.turn = .toSend peer) (composed : publisher.composed = [])
    (subscribed : network.IsSubscribed id socket) (isLocal : socket.endpoint.isLocal = true)
    (port : socket.endpoint.port = publisher.endpoint.port) (message : ByteArray) :
    ∃ after, fabric.send sender message false network = (.ok (), after) ∧
      Brings network after id [⟨sender, message, []⟩] := by
  obtain ⟨sent, replaces, sending⟩ := send_last usable turn message
  have different : id ≠ sender := by
    rintro rfl
    cases subscribed.usable.symm.trans usable
    cases subscribed.role.symm.trans role
  have quiet := of_replaces replaces different
  have still : sent.IsSubscribed id socket :=
    ⟨by simpa using quiet.usable socket subscribed.usable, subscribed.role, subscribed.turn⟩
  refine ⟨_, sending, ?_⟩
  rw [composed, parcelOf, dispatch, role, ← port]
  exact (quiet.trans (broadcast still isLocal _)).elapse stepNanos

end Brings

end Network

namespace Subscriber

open Network

variable {subscriber : Subscriber} {network : Network} {id : SocketId} {socket : NetworkSocket}

theorem receive_eq (isSocket : subscriber.lifecycle.socket = some id) (timeout : Option Duration)
    {result : Option ByteArray} {after : Network}
    (reads : fabric.readWithin fabric.receiveJoined timeout id network = (.ok result, after)) :
    subscriber.receive fabric timeout network = (.ok result, after) := by
  unfold receive Lifecycle.receiving Lifecycle.live
  rw [isSocket]
  dsimp only
  rw [reads]

/-- With an empty inbox nothing is received, with or without a timeout. -/
theorem receive_empty (isSocket : subscriber.lifecycle.socket = some id)
    (subscribed : network.IsSubscribed id socket) (empty : socket.inbox = [])
    (timeout : Option Duration) :
    ∃ after, subscriber.receive fabric timeout network = (.ok none, after) ∧
      Replaces network after id socket := by
  cases timeout with
  | none =>
      refine ⟨network, receive_eq isSocket none ?_,
        Replaces.refl (usable_eq_ok_iff.mp subscribed.usable).1⟩
      rw [Fabric.readWithin]
      dsimp only
      rw [subscribed.receive_empty empty]
  | some wait =>
      obtain ⟨after, polled, replaces⟩ := subscribed.pollReadable (.lasting wait)
      refine ⟨after, receive_eq isSocket (some wait) ?_, replaces⟩
      rw [empty] at polled
      rw [Fabric.readWithin]
      dsimp only
      rw [polled]
      rfl

/-- The oldest message is received, with or without a timeout. -/
theorem receive_waiting (isSocket : subscriber.lifecycle.socket = some id)
    (subscribed : network.IsSubscribed id socket) {parcel : Parcel} {later : List Parcel}
    (inbox : socket.inbox = parcel :: later) (timeout : Option Duration) :
    ∃ after, subscriber.receive fabric timeout network = (.ok (some parcel.payload), after) ∧
      Replaces network after id { socket with inbox := later } := by
  cases timeout with
  | none =>
      obtain ⟨after, received, replaces⟩ := subscribed.receive_waiting inbox
      refine ⟨after, receive_eq isSocket none ?_, replaces⟩
      rw [Fabric.readWithin]
      dsimp only
      rw [received]
  | some wait =>
      obtain ⟨polledNetwork, polled, same⟩ := subscribed.pollReadable (.lasting wait)
      have subscribed : polledNetwork.IsSubscribed id socket := subscribed.replace same
      obtain ⟨after, received, replaces⟩ := subscribed.receive_waiting inbox
      refine ⟨after, receive_eq isSocket (some wait) ?_, same.trans replaces⟩
      rw [inbox, List.isEmpty_cons, Bool.not_false] at polled
      rw [Fabric.readWithin]
      dsimp only
      rw [polled]
      dsimp only
      rw [received]

/-- Reading on takes what is left in the inbox and keeps the newest. -/
theorem drain_eq (isSocket : subscriber.lifecycle.socket = some id)
    (subscribed : network.IsSubscribed id socket) {count : Nat}
    (enough : socket.inbox.length < count) (latest : ByteArray) :
    ∃ after,
      subscriber.drain fabric count latest network =
          (.ok (some ((socket.inbox.map Parcel.payload).getLastD latest)), after) ∧
        Replaces network after id { socket with inbox := [] } := by
  induction count generalizing network socket latest with
  | zero => exact absurd enough (Nat.not_lt_zero _)
  | succ count ih =>
      cases inbox : socket.inbox with
      | nil =>
          obtain ⟨after, received, replaces⟩ := receive_empty isSocket subscribed inbox none
          refine ⟨after, by rw [drain, received]; rfl, ?_⟩
          rwa [← inbox]
      | cons parcel later =>
          obtain ⟨middle, received, replaces⟩ := receive_waiting isSocket subscribed inbox none
          rw [inbox, List.length_cons] at enough
          obtain ⟨after, drained, emptied⟩ :=
            ih (subscribed.replace replaces) (Nat.lt_of_succ_lt_succ enough) parcel.payload
          refine ⟨after, ?_, replaces.trans emptied⟩
          rw [drain, received]
          dsimp only
          rw [drained, List.map_cons, List.getLastD_cons]

/-- Of all messages in the inbox the newest is received, and none is left. -/
theorem receiveLatest_eq (isSocket : subscriber.lifecycle.socket = some id)
    (subscribed : network.IsSubscribed id socket) (timeout : Option Duration) :
    ∃ after,
      subscriber.receiveLatest fabric timeout network =
          (.ok (socket.inbox.getLast?.map Parcel.payload), after) ∧
        Replaces network after id { socket with inbox := [] } := by
  cases inbox : socket.inbox with
  | nil =>
      obtain ⟨after, received, replaces⟩ := receive_empty isSocket subscribed inbox timeout
      refine ⟨after, by rw [receiveLatest, received]; rfl, ?_⟩
      rwa [← inbox]
  | cons parcel later =>
      obtain ⟨middle, received, replaces⟩ := receive_waiting isSocket subscribed inbox timeout
      have subscribed := subscribed.replace replaces
      have backlog : subscriber.backlog fabric middle = later.length := by
        rw [Subscriber.backlog, isSocket]
        exact subscribed.backlog_eq
      obtain ⟨after, drained, emptied⟩ :=
        drain_eq isSocket subscribed (Nat.lt_succ_self later.length) parcel.payload
      refine ⟨after, ?_, replaces.trans emptied⟩
      rw [receiveLatest, received]
      dsimp only
      rw [backlog, drained, List.getLast?_cons, Option.map_some, List.getLastD_map,
        List.getLastD_eq_getLast?]

end Subscriber

end TaskLink
