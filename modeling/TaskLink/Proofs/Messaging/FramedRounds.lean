import TaskLink.Proofs.Messaging.FramedRuns

/-!
# Rounds of a framed client and its peer

In a round nothing fails of itself: all frames of a request leave in time, and
before the client looks for a reply its peer reads the request and answers it.
The sockets of both are followed through every step of it, up to where both
are free for the next round.
-/

namespace TaskLink

/-! ## Two sockets -/

def NetworkSocket.ConnectsTo (client server : NetworkSocket) : Prop :=
  client.endpoint.isLocal = true ∧ client.endpoint.port = server.endpoint.port

structure NetworkSocket.AreFree (client server : NetworkSocket) : Prop where
  connects : client.ConnectsTo server
  mayAsk : ∃ peer, client.turn = .toSend peer
  unsent : client.composed = []
  unread : client.inbox = []
  awaits : server.turn = .toReceive
  untaken : server.inbox = []
  unanswered : server.composed = []

namespace Network

/-- The sockets of a client and its peer, which can both be used; there are no others. -/
structure Joins (network : Network) (id served : SocketId) (client server : NetworkSocket) :
    Prop where
  usableClient : network.usable id = .ok client
  usableServer : network.usable served = .ok server
  isRequester : client.role = .requester
  isResponder : server.role = .responder
  registry : Registry (some id) (some served) network

namespace Joins

variable {network after : Network} {id served : SocketId} {client server : NetworkSocket}

theorem apart (joins : network.Joins id served client server) : id ≠ served := by
  rintro rfl
  have same := Except.ok.inj (joins.usableClient.symm.trans joins.usableServer)
  have role := joins.isRequester
  rw [same, joins.isResponder] at role
  cases role

theorem elapse (joins : network.Joins id served client server) (nanos : Nat) :
    (network.elapse nanos).Joins id served client server :=
  ⟨joins.usableClient, joins.usableServer, joins.isRequester, joins.isResponder,
    joins.registry.of_keys rfl rfl⟩

theorem replace_client (joins : network.Joins id served client server)
    {changed : NetworkSocket} (replaces : Replaces network after id changed)
    (context : changed.context = client.context) (role : changed.role = client.role) :
    after.Joins id served changed server where
  usableClient := replaces.usable joins.usableClient context
  usableServer := replaces.usable_other joins.apart.symm joins.usableServer
  isRequester := role.trans joins.isRequester
  isResponder := joins.isResponder
  registry := joins.registry.of_keys replaces.keys replaces.nextSocket

theorem replace_server (joins : network.Joins id served client server)
    {changed : NetworkSocket} (replaces : Replaces network after served changed)
    (context : changed.context = server.context) (role : changed.role = server.role) :
    after.Joins id served client changed where
  usableClient := replaces.usable_other joins.apart joins.usableClient
  usableServer := replaces.usable joins.usableServer context
  isRequester := joins.isRequester
  isResponder := role.trans joins.isResponder
  registry := joins.registry.of_keys replaces.keys replaces.nextSocket

theorem deliver_client (joins : network.Joins id served client server) (parcel : Parcel) :
    (network.deliver parcel id).Joins id served
      { client with inbox := client.inbox ++ [parcel] } server :=
  joins.replace_client
    (Replaces.modify (usable_eq_ok_iff.mp joins.usableClient).1 fun socket =>
      { socket with inbox := socket.inbox ++ [parcel] }) rfl rfl

theorem deliver_server (joins : network.Joins id served client server) (parcel : Parcel) :
    (network.deliver parcel served).Joins id served client
      { server with inbox := server.inbox ++ [parcel] } :=
  joins.replace_server
    (Replaces.modify (usable_eq_ok_iff.mp joins.usableServer).1 fun socket =>
      { socket with inbox := socket.inbox ++ [parcel] }) rfl rfl

/-- The peer's socket is the responder that requests for its port are brought to. -/
theorem boundTo?_eq (joins : network.Joins id served client server) :
    network.boundTo? .responder server.endpoint.port = some served := by
  have found := (usable_eq_ok_iff.mp joins.usableServer).1
  cases bound : network.boundTo? .responder server.endpoint.port with
  | some key =>
      obtain ⟨socket, present, role⟩ := find?_of_boundTo? joins.registry.distinct bound
      rcases joins.registry.known_of_find? present with isClient | isServer
      · cases isClient
        rw [(usable_eq_ok_iff.mp joins.usableClient).1] at present
        cases present
        cases joins.isRequester.symm.trans role
      · exact isServer.symm
  | none =>
      obtain ⟨earlier, later, split, -⟩ := List.lookup_eq_some_iff.mp found
      have member : (served, server) ∈ network.sockets := by
        rw [split]
        exact List.mem_append_right _ List.mem_cons_self
      have nobody := List.find?_eq_none.mp (Option.map_eq_none_iff.mp bound) _ member
      simp [joins.isResponder] at nobody

/-! ## Messages between them -/

/-- A frame that others follow stays with the client's socket. -/
theorem send_more (joins : network.Joins id served client server) {peer : Option SocketId}
    (turn : client.turn = .toSend peer) (frame : ByteArray) :
    ∃ after, network.send id frame true = (.ok (), after) ∧
      after.Joins id served { client with composed := client.composed ++ [frame] } server ∧
      after.clock = network.clock + stepNanos := by
  obtain ⟨after, sent, replaces⟩ := Network.send_more joins.usableClient turn frame
  exact ⟨after, sent, joins.replace_client replaces rfl rfl, clock_of_send sent⟩

/-- With the last frame the request comes to the peer. -/
theorem send_last (joins : network.Joins id served client server)
    (connects : client.ConnectsTo server) {peer : Option SocketId}
    (turn : client.turn = .toSend peer) (frame : ByteArray) :
    ∃ after, network.send id frame false = (.ok (), after) ∧
      after.Joins id served (afterSending client)
        { server with inbox := server.inbox ++ [parcelOf id frame client.composed] } ∧
      after.clock = network.clock + stepNanos := by
  obtain ⟨sent, replaces, sending⟩ := Network.send_last joins.usableClient turn frame
  have joined := joins.replace_client replaces rfl rfl
  have delivered (parcel : Parcel) : sent.dispatch client parcel = sent.deliver parcel served := by
    rw [dispatch, joins.isRequester]
    dsimp only [sendRequest]
    rw [connects.1, connects.2, joined.boundTo?_eq]
  rw [delivered] at sending
  exact ⟨_, sending, (joined.deliver_server _).elapse stepNanos, clock_of_send sending⟩

/-- The peer reads the next request whole, whether or not it was to wait for one. -/
theorem readWithin (joins : network.Joins id served client server)
    (turn : server.turn = .toReceive) {parcel : Parcel} {later : List Parcel}
    (inbox : server.inbox = parcel :: later) (wait : Option Duration) :
    ∃ after, fabric.readWithin fabric.receiveFrames wait served network =
        (.ok (some parcel.frames), after) ∧
      after.Joins id served client (afterMessage server parcel later) := by
  have now (network : Network) (joins : network.Joins id served client server) :
      ∃ after, fabric.readWithin fabric.receiveFrames none served network =
          (.ok (some parcel.frames), after) ∧
        after.Joins id served client (afterMessage server parcel later) := by
    obtain ⟨after, read, replaces⟩ := receiveFrames_eq joins.usableServer turn inbox
    refine ⟨after, ?_, joins.replace_server replaces rfl rfl⟩
    rw [Fabric.readWithin]
    dsimp only
    rw [read]
  cases wait with
  | none => exact now network joins
  | some wait =>
      have ready : server.isReady .readable = true := by
        simp [NetworkSocket.isReady, turn, inbox]
      have polled : fabric.pollReadable served (.lasting wait) network =
          (.ok true, network.tick) := by
        have step : fabric.poll served .readable (.lasting wait) network =
            (.ok true, network.tick) := poll_of_isReady joins.usableServer ready _
        rw [Fabric.pollReadable, step]
      obtain ⟨after, read, joined⟩ := now network.tick (joins.elapse stepNanos)
      refine ⟨after, ?_, joined⟩
      rw [← read, Fabric.readWithin, Fabric.readWithin]
      dsimp only
      rw [polled]

/-- The peer's answer comes to the client that it owes one. -/
theorem sendFrames_server (joins : network.Joins id served client server)
    (turn : server.turn = .toSend (some id)) (first : ByteArray) (rest : List ByteArray) :
    ∃ after parcel, fabric.sendFrames served (first :: rest) network = (.ok (), after) ∧
      parcel.frames = server.composed ++ first :: rest ∧
      after.Joins id served { client with inbox := client.inbox ++ [parcel] }
        (afterSending server) := by
  obtain ⟨sent, parcel, -, frames, replaces, sending⟩ :=
    sendFrames_eq joins.usableServer turn first rest
  have joined := joins.replace_server replaces rfl rfl
  have delivered : sent.dispatch server parcel = sent.deliver parcel id := by
    rw [dispatch, joins.isResponder, turn]
  rw [delivered] at sending
  exact ⟨_, parcel, sending, frames, (joined.deliver_client parcel).elapse stepNanos⟩

end Joins

end Network

/-! ## Frames in time -/

/-- A frame, and the nanoseconds that pass before it is sent or read. -/
structure TimedFrame where
  nanos : Nat
  bytes : ByteArray

namespace TimedFrame

def pause (frame : TimedFrame) : Interlude :=
  { nanos := frame.nanos }

def cost (frame : TimedFrame) : Nat :=
  frame.nanos + Network.stepNanos

def costs : List TimedFrame → Nat
  | [] => 0
  | frame :: rest => frame.cost + costs rest

end TimedFrame

namespace Parley

variable {parley : Parley} {id served : SocketId} {client server : NetworkSocket}
  {later : List Interlude}

theorem pass_pause {nanos : Nat} (script : parley.script = { nanos := nanos } :: later) :
    parley.pass = ({ nanos := nanos },
      { parley with script := later, network := parley.network.elapse nanos }) := by
  rw [pass, script]
  rfl

/-! ## Sending -/

theorem send_more (joins : parley.network.Joins id served client server)
    {peer : Option SocketId} (turn : client.turn = .toSend peer) {frame : TimedFrame}
    (script : parley.script = frame.pause :: later) :
    ∃ network,
      fabric.send id frame.bytes true parley =
        (.ok (), { parley with script := later, network := network }) ∧
      network.Joins id served { client with composed := client.composed ++ [frame.bytes] } server ∧
      network.clock = parley.network.clock + frame.cost := by
  obtain ⟨network, sent, joined, clock⟩ :=
    (joins.elapse frame.nanos).send_more turn frame.bytes
  refine ⟨network, ?_, joined, clock.trans (Nat.add_assoc _ _ _)⟩
  change Parley.send id frame.bytes true parley = _
  rw [Parley.send, pass_pause script]
  dsimp only
  rw [sent]
  rfl

theorem send_last (joins : parley.network.Joins id served client server)
    (connects : client.ConnectsTo server) {peer : Option SocketId}
    (turn : client.turn = .toSend peer) {frame : TimedFrame}
    (script : parley.script = frame.pause :: later) :
    ∃ network,
      fabric.send id frame.bytes false parley =
        (.ok (), { parley with
          script := later
          network := network
          history := .transmitted id (client.composed ++ [frame.bytes]) :: parley.history }) ∧
      network.Joins id served (Network.afterSending client)
        { server with
          inbox := server.inbox ++ [Network.parcelOf id frame.bytes client.composed] } ∧
      network.clock = parley.network.clock + frame.cost := by
  obtain ⟨network, sent, joined, clock⟩ :=
    (joins.elapse frame.nanos).send_last connects turn frame.bytes
  refine ⟨network, ?_, joined, clock.trans (Nat.add_assoc _ _ _)⟩
  have found := (Network.usable_eq_ok_iff.mp (joins.elapse frame.nanos).usableClient).1
  change Parley.send id frame.bytes false parley = _
  rw [Parley.send, pass_pause script]
  dsimp only
  rw [sent]
  dsimp only [composed]
  rw [found]
  rfl

/-- All frames of a request leave, and it comes to the peer. -/
theorem sendFrames_joins (joins : parley.network.Joins id served client server)
    (connects : client.ConnectsTo server) {peer : Option SocketId}
    (turn : client.turn = .toSend peer) {first : TimedFrame} {rest : List TimedFrame}
    (script : parley.script = (first :: rest).map TimedFrame.pause ++ later) :
    ∃ network parcel,
      fabric.sendFrames id ((first :: rest).map TimedFrame.bytes) parley =
        (.ok (), { parley with
          script := later
          network := network
          history := .transmitted id parcel.frames :: parley.history }) ∧
      parcel.sender = id ∧
      parcel.frames = client.composed ++ (first :: rest).map TimedFrame.bytes ∧
      network.Joins id served (Network.afterSending client)
        { server with inbox := server.inbox ++ [parcel] } ∧
      network.clock = parley.network.clock + TimedFrame.costs (first :: rest) := by
  induction rest generalizing parley client first with
  | nil =>
      obtain ⟨network, sent, joined, clock⟩ := send_last joins connects turn script
      refine ⟨network, Network.parcelOf id first.bytes client.composed, ?_,
        Network.sender_parcelOf _ _ _, Network.frames_parcelOf _ _ _, joined, clock⟩
      have step : fabric.send id first.bytes (!([] : List ByteArray).isEmpty) parley = _ := sent
      rw [List.map_cons, List.map_nil, Fabric.sendFrames, step, Network.frames_parcelOf]
      rfl
  | cons second rest ih =>
      obtain ⟨network, sent, joined, clock⟩ := send_more joins turn script
      let middle : Parley := { parley with
        script := (second :: rest).map TimedFrame.pause ++ later
        network := network }
      have joined : middle.network.Joins id served _ server := joined
      obtain ⟨last, parcel, sending, sender, frames, delivered, total⟩ :=
        ih joined connects turn rfl
      refine ⟨last, parcel, ?_, sender, ?_, delivered, ?_⟩
      · have step : fabric.send id first.bytes
            (!((second :: rest).map TimedFrame.bytes).isEmpty) parley = _ := sent
        rw [List.map_cons, Fabric.sendFrames, step]
        exact sending
      · rw [frames, List.append_assoc]
        rfl
      · have spent : middle.network.clock = parley.network.clock + first.cost := clock
        rw [total, spent, Nat.add_assoc]
        rfl

/-! ## Reading -/

theorem receive_more (joins : parley.network.Joins id served client server)
    (turn : client.turn = .toReceive) {sender : SocketId} {frame : TimedFrame}
    {next : ByteArray} {rest : List ByteArray} {more : List Parcel}
    (inbox : client.inbox = ⟨sender, frame.bytes, next :: rest⟩ :: more)
    (script : parley.script = frame.pause :: later) :
    ∃ network,
      fabric.receive id parley =
        (.ok ⟨frame.bytes, rest.length + 1⟩,
          { parley with script := later, network := network }) ∧
      network.Joins id served { client with inbox := ⟨sender, next, rest⟩ :: more } server := by
  have elapsed := joins.elapse frame.nanos
  obtain ⟨network, received, replaces⟩ := Network.receive_more elapsed.usableClient turn inbox
  refine ⟨network, ?_, elapsed.replace_client replaces rfl rfl⟩
  change Parley.receive id parley = _
  rw [Parley.receive, pass_pause script]
  dsimp only
  rw [received]
  rfl

theorem receive_last (joins : parley.network.Joins id served client server)
    (turn : client.turn = .toReceive) {sender : SocketId} {frame : TimedFrame}
    {more : List Parcel} (inbox : client.inbox = ⟨sender, frame.bytes, []⟩ :: more)
    (script : parley.script = frame.pause :: later) :
    ∃ network,
      fabric.receive id parley =
        (.ok ⟨frame.bytes, 0⟩, { parley with
          script := later
          network := network
          history := .replied id :: parley.history }) ∧
      network.Joins id served (Network.afterMessage client ⟨sender, frame.bytes, []⟩ more)
        server := by
  have elapsed := joins.elapse frame.nanos
  obtain ⟨network, received, replaces⟩ := Network.receive_last elapsed.usableClient turn inbox
  refine ⟨network, ?_, elapsed.replace_client replaces rfl rfl⟩
  change Parley.receive id parley = _
  rw [Parley.receive, pass_pause script]
  dsimp only
  rw [received]
  rfl

theorem collectFollowing_joins (joins : parley.network.Joins id served client server)
    (turn : client.turn = .toReceive) {sender : SocketId} {first : TimedFrame}
    {rest : List TimedFrame} {more : List Parcel}
    (inbox : client.inbox = ⟨sender, first.bytes, rest.map TimedFrame.bytes⟩ :: more)
    (script : parley.script = (first :: rest).map TimedFrame.pause ++ later)
    (read : List ByteArray) :
    ∃ network,
      fabric.collectFollowing id (rest.length + 1) read parley =
        (.ok (read ++ (first :: rest).map TimedFrame.bytes), { parley with
          script := later
          network := network
          history := .replied id :: parley.history }) ∧
      network.Joins id served
        (Network.afterMessage client ⟨sender, first.bytes, rest.map TimedFrame.bytes⟩ more)
        server := by
  induction rest generalizing parley client first read with
  | nil =>
      obtain ⟨network, received, joined⟩ := receive_last joins turn inbox script
      refine ⟨network, ?_, joined⟩
      rw [List.length_nil, Fabric.collectFollowing, received]
      rfl
  | cons second rest ih =>
      obtain ⟨network, received, joined⟩ := receive_more joins turn inbox script
      let middle : Parley := { parley with
        script := (second :: rest).map TimedFrame.pause ++ later
        network := network }
      have joined : middle.network.Joins id served _ server := joined
      obtain ⟨last, collected, left⟩ := ih joined turn rfl rfl (read ++ [first.bytes])
      refine ⟨last, ?_, left⟩
      rw [List.length_map] at received
      rw [List.append_assoc] at collected
      rw [List.length_cons, Fabric.collectFollowing, received]
      exact collected

theorem receiveFrames_joins (joins : parley.network.Joins id served client server)
    (turn : client.turn = .toReceive) {parcel : Parcel} {frames : List TimedFrame}
    (inbox : client.inbox = [parcel]) (isReply : parcel.frames = frames.map TimedFrame.bytes)
    (script : parley.script = frames.map TimedFrame.pause ++ later) :
    ∃ network,
      fabric.receiveFrames id parley =
        (.ok parcel.frames, { parley with
          script := later
          network := network
          history := .replied id :: parley.history }) ∧
      network.Joins id served (Network.afterMessage client parcel []) server := by
  obtain ⟨sender, frame, following⟩ := parcel
  obtain ⟨first, rest, rfl, rfl, rfl⟩ := List.map_eq_cons_iff.mp isReply.symm
  cases rest with
  | nil =>
      obtain ⟨network, received, joined⟩ := receive_last joins turn inbox script
      refine ⟨network, ?_, joined⟩
      rw [Fabric.receiveFrames, received]
      rfl
  | cons second rest =>
      obtain ⟨network, received, joined⟩ := receive_more joins turn inbox script
      let middle : Parley := { parley with
        script := (second :: rest).map TimedFrame.pause ++ later
        network := network }
      have joined : middle.network.Joins id served _ server := joined
      obtain ⟨last, collected, left⟩ := collectFollowing_joins joined turn rfl rfl [first.bytes]
      refine ⟨last, ?_, left⟩
      rw [List.length_map] at received
      rw [Fabric.receiveFrames, received]
      exact collected

/-! ## The peer's part -/

theorem perform_receiveFrames (joins : parley.network.Joins id served client server)
    (isServed : parley.served = some served) (turn : server.turn = .toReceive) {parcel : Parcel}
    {more : List Parcel} (inbox : server.inbox = parcel :: more) (wait : Option Duration) :
    ∃ network,
      (PeerMove.receiveFrames wait).perform parley = { parley with
        network := network
        history := .taken parcel.sender (.apart parcel.frames) :: parley.history } ∧
      network.Joins id served client (Network.afterMessage server parcel more) := by
  obtain ⟨network, read, joined⟩ := joins.readWithin turn inbox wait
  have received : parley.peer.receiveFrames Network.fabric wait parley.network =
      (.ok (some parcel.frames), network) := by
    have isLive : parley.peer.lifecycle.socket = some served := isServed
    rw [Responder.receiveFrames, Lifecycle.receiving, Lifecycle.live, isLive]
    dsimp only
    rw [read]
  have addressed : addressee network parley.served = some parcel.sender := by
    have owes : (Network.afterMessage server parcel more).turn = .toSend (some parcel.sender) := by
      rw [Network.afterMessage, joins.isResponder]
      rfl
    rw [isServed]
    exact addressee_of_find? (Network.usable_eq_ok_iff.mp joined.usableServer).1 owes
  refine ⟨network, ?_, joined⟩
  rw [PeerMove.perform, received, afterReading, noteTaken]
  have addressed' : addressee { parley with network := network }.network
      { parley with network := network }.served = some parcel.sender := addressed
  rw [addressed']
  rfl

/-- No frames are no answer: the peer is refused, and the request is still to be answered. -/
theorem perform_sendFrames_nil (parley : Parley) : (PeerMove.sendFrames []).perform parley = parley :=
  rfl

theorem perform_refusals (parley : Parley) (count : Nat) :
    (List.replicate count (PeerMove.sendFrames [])).foldl
      (fun parley move => move.perform parley) parley = parley := by
  induction count with
  | zero => rfl
  | succ count ih => rw [List.replicate_succ, List.foldl_cons, perform_sendFrames_nil, ih]

/-- The peer answers the client that it owes an answer. -/
theorem perform_sendFrames (joins : parley.network.Joins id served client server)
    (isServed : parley.served = some served) (turn : server.turn = .toSend (some id))
    (whole : server.composed = []) {reply : List ByteArray} (nonempty : reply ≠ []) :
    ∃ network parcel,
      (PeerMove.sendFrames reply).perform parley = { parley with
        network := network
        history := .answered id reply :: parley.history } ∧
      parcel.frames = reply ∧
      network.Joins id served { client with inbox := client.inbox ++ [parcel] }
        (Network.afterSending server) := by
  obtain ⟨first, rest, rfl⟩ := List.exists_cons_of_ne_nil nonempty
  obtain ⟨network, parcel, sent, frames, joined⟩ := joins.sendFrames_server turn first rest
  have answered : parley.peer.sendFrames Network.fabric (first :: rest) parley.network =
      (.ok (), network) := by
    have isLive : parley.peer.lifecycle.socket = some served := isServed
    rw [Responder.sendFrames, List.isEmpty_cons, if_neg Bool.false_ne_true, Lifecycle.sending,
      Lifecycle.live, isLive]
    dsimp only
    rw [sent]
  have addressed : addressee parley.network parley.served = some id := by
    rw [isServed]
    exact addressee_of_find? (Network.usable_eq_ok_iff.mp joins.usableServer).1 turn
  rw [whole, List.nil_append] at frames
  refine ⟨network, parcel, ?_, frames, joined⟩
  rw [PeerMove.perform, answered, afterAnswering, addressed]
  rfl

/-! ## Waiting -/

/-- A poll finds a socket ready if the interlude before it does not interfere. -/
theorem poll_of_isReady {interlude : Interlude} {before : Parley}
    (passed : parley.pass = (interlude, before)) (faultless : interlude.fault = none)
    (unforced : interlude.ready = none) {socket : NetworkSocket}
    (usable : before.network.usable id = .ok socket) {readiness : Readiness}
    (ready : socket.isReady readiness = true) (wait : Wait) :
    fabric.poll id readiness wait parley =
      (.ok true, { before with network := before.network.tick }.notePolled id readiness true) := by
  change Parley.poll id readiness wait parley = _
  rw [Parley.poll, passed]
  dsimp only
  rw [faultless, unforced]
  dsimp only
  rw [Network.poll_of_isReady usable ready]

/-- Waiting is over with the first poll that is not interrupted. -/
theorem awaitReady_of_poll {readiness : Readiness} {ready : Bool} {after : Parley}
    (polls : ∀ wait, fabric.poll id readiness wait parley = (.ok ready, after))
    (deadline : Option Deadline) {fuel : Nat} (fuelled : 0 < fuel) :
    FramedRequester.awaitReady fabric id readiness deadline fuel parley =
      some (.ok ready, after) := by
  cases fuel with
  | zero => cases fuelled
  | succ fuel =>
      unfold FramedRequester.awaitReady
      dsimp only
      rw [polls]

/-- A deadline has not passed if no more time has than its limit allows. -/
theorem isPast_deadline {timeout : Duration} {after : Parley}
    (timely : after.network.clock ≤ parley.network.clock + timeout.nanos) :
    FramedRequester.isPast fabric (fabric.deadline timeout parley) after = false := by
  unfold Fabric.deadline
  dsimp only
  split
  · exact decide_eq_false (Nat.not_lt_of_le timely)
  · rfl

end Parley

/-! ## Rounds -/

/--
An exchange, and what the peer does in it: it reads the request frame by frame,
tries some times to answer with no frames at all, and then gives a reply.
-/
structure FramedRound where
  fuel : Nat
  timeout : Duration
  /-- Nanoseconds before the socket is asked whether it takes a request. -/
  lead : Nat := 0
  request : List TimedFrame
  /-- How long the peer would wait for the request. -/
  wait : Option Duration := none
  refusals : Nat := 0
  /-- Nanoseconds that pass with the peer's part. -/
  thinking : Nat := 0
  reply : List TimedFrame

namespace FramedRound

/-- The frames that are sent. -/
def asked (round : FramedRound) : List ByteArray :=
  round.request.map TimedFrame.bytes

def given (round : FramedRound) : List ByteArray :=
  round.reply.map TimedFrame.bytes

def moves (round : FramedRound) : List PeerMove :=
  .receiveFrames round.wait ::
    (List.replicate round.refusals (.sendFrames []) ++ [.sendFrames round.given])

/-- What happens before the steps of the client, from when its request has left. -/
def answering (round : FramedRound) : List Interlude :=
  { moves := round.moves, nanos := round.thinking } :: round.reply.map TimedFrame.pause

def script (round : FramedRound) : List Interlude :=
  { nanos := round.lead } :: (round.request.map TimedFrame.pause ++ round.answering)

def sendingNanos (round : FramedRound) : Nat :=
  round.lead + Network.stepNanos + TimedFrame.costs round.request

structure IsTimely (round : FramedRound) : Prop where
  fuelled : 0 < round.fuel
  request : round.request ≠ []
  reply : round.reply ≠ []
  inTime : round.sendingNanos ≤ round.timeout.nanos

/-- What happens from when the request has left, the latest first. -/
def answeringEvents (round : FramedRound) (id : SocketId) : List ParleyEvent :=
  [.replied id, .answered id round.given, .taken id (.apart round.asked)]

def events (round : FramedRound) (id : SocketId) : List ParleyEvent :=
  round.answeringEvents id ++ [.transmitted id round.asked, .admitted id]

end FramedRound

namespace Parley

variable {parley : Parley} {id served : SocketId} {client server : NetworkSocket}
  {later : List Interlude}

theorem foldl_moves (joins : parley.network.Joins id served client server)
    (isServed : parley.served = some served) (turn : server.turn = .toReceive) {parcel : Parcel}
    (inbox : server.inbox = [parcel]) (sender : parcel.sender = id) (whole : server.composed = [])
    {round : FramedRound} (nonempty : round.given ≠ []) :
    ∃ network answer,
      round.moves.foldl (fun parley move => move.perform parley) parley = { parley with
        network := network
        history := .answered id round.given :: .taken id (.apart parcel.frames) ::
          parley.history } ∧
      answer.frames = round.given ∧
      network.Joins id served { client with inbox := client.inbox ++ [answer] }
        (Network.afterSending (Network.afterMessage server parcel [])) := by
  obtain ⟨network, taken, joined⟩ := perform_receiveFrames joins isServed turn inbox round.wait
  rw [sender] at taken
  let middle : Parley := { parley with
    network := network
    history := .taken id (.apart parcel.frames) :: parley.history }
  have joined : middle.network.Joins id served client _ := joined
  have owes : (Network.afterMessage server parcel []).turn = .toSend (some id) := by
    rw [Network.afterMessage, joins.isResponder, sender]
    rfl
  obtain ⟨last, answer, answered, frames, delivered⟩ :=
    perform_sendFrames joined isServed owes whole nonempty
  refine ⟨last, answer, ?_, frames, delivered⟩
  rw [FramedRound.moves, List.foldl_cons, taken, List.foldl_append, perform_refusals,
    List.foldl_cons, List.foldl_nil, answered]

/-- A request that the peer has before it is answered, and the reply is read. -/
theorem awaitFrames_joins (joins : parley.network.Joins id served client server)
    (isServed : parley.served = some served) (awaits : client.turn = .toReceive)
    (empty : client.inbox = []) (turn : server.turn = .toReceive) {parcel : Parcel}
    (inbox : server.inbox = [parcel]) (sender : parcel.sender = id) (whole : server.composed = [])
    {round : FramedRound} (timely : round.IsTimely) (isRequest : parcel.frames = round.asked)
    (script : parley.script = round.answering ++ later) (deadline : Option Deadline) :
    ∃ network answer,
      FramedRequester.awaitFrames fabric round.fuel round.timeout deadline id parley =
        some (.ok round.given, { parley with
          script := later
          network := network
          history := round.answeringEvents id ++ parley.history }) ∧
      network.Joins id served
        (Network.afterMessage { client with inbox := [answer] } answer [])
        (Network.afterSending (Network.afterMessage server parcel [])) := by
  have nonempty : round.given ≠ [] := by simpa [FramedRound.given] using timely.reply
  let begun : Parley := { parley with script := round.reply.map TimedFrame.pause ++ later }
  have begins : begun.network.Joins id served client server := joins
  obtain ⟨network, answer, moved, frames, delivered⟩ :=
    foldl_moves begins isServed turn inbox sender whole nonempty
  rw [isRequest] at moved
  rw [empty, List.nil_append] at delivered
  let answered : Parley := { begun with
    network := network.elapse round.thinking
    history := .answered id round.given :: .taken id (.apart round.asked) :: parley.history }
  have passed : parley.pass = ({ moves := round.moves, nanos := round.thinking }, answered) := by
    rw [pass, script]
    dsimp only [FramedRound.answering, List.cons_append, after]
    rw [moved]
  have isReady : NetworkSocket.isReady { client with inbox := [answer] } .readable = true := by
    simp [NetworkSocket.isReady, awaits]
  have joined : answered.network.Joins id served { client with inbox := [answer] } _ :=
    delivered.elapse round.thinking
  have polls := poll_of_isReady passed rfl rfl joined.usableClient isReady
  let polled : Parley := { answered with network := answered.network.tick }
  have joined : polled.network.Joins id served { client with inbox := [answer] } _ :=
    joined.elapse Network.stepNanos
  obtain ⟨last, received, left⟩ := receiveFrames_joins joined awaits rfl frames rfl
  refine ⟨last, answer, ?_, left⟩
  unfold FramedRequester.awaitFrames
  rw [awaitReady_of_poll polls deadline timely.fuelled]
  dsimp only [notePolled]
  rw [received, frames]
  rfl

/-- A request leaves in time, its peer answers it, and the reply is read. -/
theorem exchangeFrames_joins (joins : parley.network.Joins id served client server)
    (isServed : parley.served = some served) (free : client.AreFree server)
    {round : FramedRound} (timely : round.IsTimely)
    (script : parley.script = round.request.map TimedFrame.pause ++ (round.answering ++ later))
    {deadline : Option Deadline}
    (inTime : ∀ after : Parley, after.network.clock =
        parley.network.clock + TimedFrame.costs round.request →
      FramedRequester.isPast fabric deadline after = false) :
    ∃ network request answer,
      FramedRequester.exchangeFrames fabric round.fuel round.asked round.timeout deadline id
          parley =
        some (.ok round.given, { parley with
          script := later
          network := network
          history := round.answeringEvents id ++
            .transmitted id round.asked :: parley.history }) ∧
      network.Joins id served
        (Network.afterMessage { Network.afterSending client with inbox := [answer] } answer [])
        (Network.afterSending
          (Network.afterMessage { server with inbox := [request] } request [])) := by
  obtain ⟨first, rest, isRequest⟩ := List.exists_cons_of_ne_nil timely.request
  obtain ⟨peer, mayAsk⟩ := free.mayAsk
  rw [isRequest] at script inTime
  obtain ⟨network, parcel, sent, sender, frames, joined, clock⟩ :=
    sendFrames_joins joins free.connects mayAsk script
  rw [free.untaken, List.nil_append] at joined
  rw [free.unsent, List.nil_append, ← isRequest] at frames
  have awaits : (Network.afterSending client).turn = .toReceive := by
    rw [Network.afterSending, joins.isRequester]
    rfl
  rw [← isRequest, frames] at sent
  let middle : Parley := { parley with
    script := round.answering ++ later
    network := network
    history := .transmitted id round.asked :: parley.history }
  have joined : middle.network.Joins id served _ { server with inbox := [parcel] } := joined
  obtain ⟨last, answer, reads, left⟩ := awaitFrames_joins joined isServed awaits free.unread
    free.awaits rfl sender free.unanswered timely frames rfl deadline
  have passes : FramedRequester.isPast fabric deadline middle = false := inTime middle clock
  refine ⟨last, parcel, answer, ?_, left⟩
  have sending : fabric.sendFrames id round.asked parley = (.ok (), middle) := sent
  unfold FramedRequester.exchangeFrames
  rw [sending]
  dsimp only
  rw [passes, if_neg Bool.false_ne_true, reads]

end Parley

/-- A request is sent over a socket that takes it at once; a reply leaves the client as it is. -/
theorem FramedRequester.exchange_of_admitted {client : FramedRequester} {id : SocketId}
    {parley admitted after : Parley} {fuel : Nat} {frames reply : List ByteArray}
    {timeout : Duration} (isSocket : client.lifecycle.socket = some id) (asks : frames ≠ [])
    (fuelled : 0 < fuel)
    (polls : ∀ wait, Parley.fabric.poll id .writable wait parley = (.ok true, admitted))
    (exchanged : exchangeFrames Parley.fabric fuel frames timeout
      (Parley.fabric.deadline timeout parley) id admitted = some (.ok reply, after)) :
    client.exchange Parley.fabric fuel frames timeout parley =
      some (splitStatus reply, client, after) := by
  unfold exchange Lifecycle.live exchangeOver
  rw [isSocket, List.isEmpty_eq_false_iff.mpr asks, if_neg Bool.false_ne_true]
  dsimp only
  rw [Parley.awaitReady_of_poll polls _ fuelled]
  dsimp only
  rw [exchanged]
  rfl

namespace FramedConversation

/-- The client and its peer are connected, and nobody's request waits for an answer. -/
structure IsFree (conversation : FramedConversation) (id served : SocketId) : Prop where
  isSocket : conversation.client.lifecycle.socket = some id
  isServed : conversation.parley.served = some served
  sockets : ∃ client server, conversation.parley.network.usable id = .ok client ∧
    conversation.parley.network.usable served = .ok server ∧
    client.ConnectsTo server ∧ server.turn = .toReceive ∧ server.inbox = []

variable {conversation : FramedConversation} {id served : SocketId}

/-- Between exchanges the two sockets are as they have to be for a round. -/
theorem Rests.exists_joins (rests : conversation.Rests) (free : conversation.IsFree id served) :
    ∃ client server, conversation.parley.network.Joins id served client server ∧
      client.AreFree server := by
  obtain ⟨isSocket, isServed, client, server, usable, usableServer, connects, turn, inbox⟩ := free
  have concord := rests.attends.concord
  rw [isSocket, isServed] at concord
  obtain ⟨socket, found, isRequester, mayAsk, unsent, unread, -⟩ := concord.client id _ rfl
  rw [(Network.usable_eq_ok_iff.mp usable).1] at found
  cases found
  obtain ⟨socket, found, ⟨isResponder, unanswered, -⟩, -⟩ := concord.server served rfl
  rw [(Network.usable_eq_ok_iff.mp usableServer).1] at found
  cases found
  have toSend : ∃ peer, client.turn = .toSend peer := by
    cases isTurn : client.turn with
    | toSend peer => exact ⟨peer, rfl⟩
    | toReceive => exact absurd isTurn mayAsk
  exact ⟨client, server, ⟨usable, usableServer, isRequester, isResponder, concord.registry⟩,
    ⟨connects, toSend, unsent, unread, turn, inbox, unanswered⟩⟩

/-- A round is completed over the sockets that there are, which are free again after it. -/
theorem Rests.completes (rests : conversation.Rests) (free : conversation.IsFree id served)
    {round : FramedRound} (timely : round.IsTimely) {later : List Interlude}
    (script : conversation.parley.script = round.script ++ later) :
    ∃ after,
      conversation.client.exchange Parley.fabric round.fuel round.asked round.timeout
          conversation.parley = some (splitStatus round.given, conversation.client, after) ∧
      after.script = later ∧
      after.history = round.events id ++ conversation.parley.history ∧
      IsFree ⟨conversation.client, after⟩ id served := by
  obtain ⟨client, server, joins, between⟩ := rests.exists_joins free
  obtain ⟨peer, toSend⟩ := between.mayAsk
  let admitted : Parley := { conversation.parley with
    script := round.request.map TimedFrame.pause ++ (round.answering ++ later)
    network := (conversation.parley.network.elapse round.lead).tick
    history := .admitted id :: conversation.parley.history }
  have asks : round.asked ≠ [] := by simpa [FramedRound.asked] using timely.request
  have isReady : client.isReady .writable = true := by simp [NetworkSocket.isReady, toSend]
  have polls (wait : Wait) :
      Parley.fabric.poll id .writable wait conversation.parley = (.ok true, admitted) := by
    rw [FramedRound.script, List.cons_append, List.append_assoc] at script
    exact Parley.poll_of_isReady (Parley.pass_pause script) rfl rfl
      (joins.elapse round.lead).usableClient isReady wait
  have joined : admitted.network.Joins id served client server :=
    (joins.elapse round.lead).elapse Network.stepNanos
  have inTime (after : Parley) (clock : after.network.clock =
      admitted.network.clock + TimedFrame.costs round.request) :
      FramedRequester.isPast Parley.fabric
        (Parley.fabric.deadline round.timeout conversation.parley) after = false := by
    have elapsed : admitted.network.clock =
      conversation.parley.network.clock + round.lead + Network.stepNanos := rfl
    have limit := timely.inTime
    unfold FramedRound.sendingNanos at limit
    exact Parley.isPast_deadline (by omega)
  obtain ⟨network, request, answer, exchanged, left⟩ :=
    Parley.exchangeFrames_joins joined free.isServed between timely rfl inTime
  refine ⟨_, FramedRequester.exchange_of_admitted free.isSocket asks timely.fuelled polls exchanged,
    rfl, ?_, free.isSocket, free.isServed, _, _, left.usableClient, left.usableServer,
    between.connects, ?_, rfl⟩
  · rw [FramedRound.events, List.append_assoc]
    rfl
  · rw [Network.afterSending, Network.afterMessage, joins.isResponder]
    rfl

end FramedConversation

end TaskLink
