import TaskLink.Proofs.Messaging.Inflow
import TaskLink.Proofs.Messaging.Parley

/-!
# Runs of calls on a server

A server is called in any order while requests keep coming in.  It takes them
one at a time, oldest first, whole, and whether it owes a reply is told by the
last call that read a request or answered one.
-/

namespace TaskLink

/-! ## Joined and apart -/

namespace Fabric

variable {σ : Type} (fabric : Fabric σ)

theorem readWithin_joined (timeout : Option Duration) (socket : SocketId) (s : σ) :
    fabric.readWithin fabric.receiveJoined timeout socket s =
      ((fabric.readWithin fabric.receiveFrames timeout socket s).1.map (Option.map joinFrames),
        (fabric.readWithin fabric.receiveFrames timeout socket s).2) := by
  have now (s : σ) :
      fabric.readWithin fabric.receiveJoined none socket s =
        ((fabric.readWithin fabric.receiveFrames none socket s).1.map (Option.map joinFrames),
          (fabric.readWithin fabric.receiveFrames none socket s).2) := by
    unfold readWithin
    dsimp only
    rw [fabric.receiveJoined_eq]
    cases fabric.receiveFrames socket s with
    | mk result after =>
        cases result with
        | ok frames => rfl
        | error fault => cases fault <;> rfl
  cases timeout with
  | none => exact now s
  | some wait =>
      unfold readWithin at now ⊢
      dsimp only at now ⊢
      cases fabric.pollReadable socket (.lasting wait) s with
      | mk result polled =>
          cases result with
          | error fault => rfl
          | ok isReady =>
              cases isReady with
              | false => rfl
              | true => exact now polled

end Fabric

/-- A socket is used alike if all that is used differs in what becomes of its value. -/
theorem Lifecycle.receiving_map {σ α β : Type} (lifecycle : Lifecycle) (change : α → β)
    {use : SocketId → σ → Except SocketFault α × σ} {use' : SocketId → σ → Except SocketFault β × σ}
    (same : ∀ socket s, use' socket s = ((use socket s).1.map change, (use socket s).2)) (s : σ) :
    lifecycle.receiving use' s =
      ((lifecycle.receiving use s).1.map change, (lifecycle.receiving use s).2) := by
  unfold receiving
  cases lifecycle.live with
  | error error => rfl
  | ok socket =>
      dsimp only
      rw [same]
      cases use socket s with
      | mk result after => cases result <;> rfl

theorem Responder.sendFrames_singleton {σ : Type} (fabric : Fabric σ) (server : Responder)
    (reply : ByteArray) (s : σ) :
    server.sendFrames fabric [reply] s = server.send fabric reply s := by
  have same : (fun socket => fabric.sendFrames socket [reply]) =
      fun socket => fabric.send socket reply false := by
    funext socket s
    rw [Fabric.sendFrames, List.isEmpty_nil, Bool.not_true]
    cases fabric.send socket reply false s with
    | mk result after => cases result <;> rfl
  rw [sendFrames, List.isEmpty_cons, same]
  rfl

/-- A request that is read joined is one that is read frame by frame and joined. -/
theorem Responder.receive_eq {σ : Type} (fabric : Fabric σ) (server : Responder)
    (timeout : Option Duration) (s : σ) :
    server.receive fabric timeout s =
      ((server.receiveFrames fabric timeout s).1.map (Option.map joinFrames),
        (server.receiveFrames fabric timeout s).2) :=
  server.lifecycle.receiving_map _ (fabric.readWithin_joined timeout) s

namespace Inflow

variable {inflow after : Inflow} {socket changed : NetworkSocket} {messages : List Parcel}

/-! ## Sending -/

theorem Comes.step (comes : Comes inflow messages after socket) {network : Network}
    (usable : network.usable after.reader = .ok changed) :
    Comes inflow messages { after with network := network } changed :=
  ⟨usable, comes.reader, comes.arrived, comes.script⟩

/-- A frame that more frames follow leaves the socket its turn. -/
theorem send_more (holds : inflow.Holds socket) {peer : Option SocketId}
    (turn : socket.turn = .toSend peer) (frame : ByteArray) :
    ∃ messages after, fabric.send inflow.reader frame true inflow = (.ok (), after) ∧
      Comes inflow messages after
        (holding { socket with composed := socket.composed ++ [frame] } messages) := by
  obtain ⟨messages, passed⟩ := holds.pass
  obtain ⟨network, sent, replaces⟩ := Network.send_more passed.holds turn frame
  exact ⟨messages, _, around_eq (fun id => Network.send id frame true) sent,
    passed.replace replaces rfl⟩

/-- A reply is sent by another socket's turn, which it does not change again. -/
theorem usable_dispatch {network : Network} {id : SocketId} (role : socket.role = .responder)
    {peer : Option SocketId} (turn : socket.turn = .toSend peer) (other : peer ≠ some id)
    (usable : network.usable id = .ok changed) (parcel : Parcel) :
    ((network.dispatch socket parcel).tick).usable id = .ok changed := by
  rw [Network.dispatch, role, turn]
  cases peer with
  | none => exact usable
  | some receiver =>
      have different : id ≠ receiver := by
        rintro rfl
        exact other rfl
      obtain ⟨found, alive⟩ := Network.usable_eq_ok_iff.mp usable
      refine Network.usable_eq_ok_iff.mpr ⟨?_, alive⟩
      change (network.deliver parcel receiver).find? id = _
      rw [Network.deliver, Network.find?_modify, if_neg different]
      exact found

/-- A reply goes to another socket, and the next request may be read. -/
theorem send_last (holds : inflow.Holds socket) (role : socket.role = .responder)
    {peer : Option SocketId} (turn : socket.turn = .toSend peer)
    (other : peer ≠ some inflow.reader) (frame : ByteArray) :
    ∃ messages after, fabric.send inflow.reader frame false inflow = (.ok (), after) ∧
      Comes inflow messages after (holding (Network.afterSending socket) messages) := by
  obtain ⟨messages, passed⟩ := holds.pass
  obtain ⟨network, replaces, sent⟩ := Network.send_last passed.holds turn frame
  rw [← passed.reader] at other
  generalize Network.parcelOf inflow.pass.reader frame (holding socket messages).composed = reply
    at sent
  have stays : ((network.dispatch (holding socket messages) reply).tick).usable inflow.pass.reader =
      .ok (holding (Network.afterSending socket) messages) :=
    usable_dispatch role turn other (replaces.usable passed.holds rfl) reply
  exact ⟨messages, _, around_eq (fun id => Network.send id frame false) sent, passed.step stays⟩

/-- A socket that has to read first does not send. -/
theorem send_out_of_turn (holds : inflow.Holds socket) (turn : socket.turn = .toReceive)
    (frame : ByteArray) (more : Bool) :
    ∃ messages after,
      fabric.send inflow.reader frame more inflow =
          (.error (Network.outOfTurn socket.role), after) ∧
        Comes inflow messages after (holding socket messages) := by
  obtain ⟨messages, passed⟩ := holds.pass
  have refused := Network.send_out_of_turn passed.holds turn frame more
  exact ⟨messages, inflow.pass, around_eq (fun id => Network.send id frame more) refused, passed⟩

/-- A reply of several frames goes out with the last of them. -/
theorem sendFrames_eq (holds : inflow.Holds socket) (role : socket.role = .responder)
    {peer : Option SocketId} (turn : socket.turn = .toSend peer)
    (other : peer ≠ some inflow.reader) (first : ByteArray) (rest : List ByteArray) :
    ∃ messages after,
      fabric.sendFrames inflow.reader (first :: rest) inflow = (.ok (), after) ∧
        Comes inflow messages after (holding (Network.afterSending socket) messages) := by
  induction rest generalizing inflow socket first with
  | nil =>
      obtain ⟨messages, after, sent, comes⟩ := send_last holds role turn other first
      refine ⟨messages, after, ?_, comes⟩
      rw [Fabric.sendFrames, List.isEmpty_nil, Bool.not_true, sent]
      rfl
  | cons second rest ih =>
      obtain ⟨messages, middle, sent, comes⟩ := send_more holds turn first
      rw [← comes.reader] at other
      obtain ⟨more, after, last, later⟩ := ih comes.holds role turn other second
      have total := comes.trans later
      refine ⟨messages ++ more, after, ?_, ?_⟩
      · rw [Fabric.sendFrames, List.isEmpty_cons, Bool.not_false, sent]
        dsimp only
        rw [← comes.reader]
        exact last
      · rw [← holding_append]
        exact total

end Inflow

/-! ## Servers -/

inductive ServerCall where
  | receive (timeout : Option Duration)
  | receiveFrames (timeout : Option Duration)
  | poll (wait : Duration)
  | send (reply : ByteArray)
  | sendFrames (frames : List ByteArray)

inductive ServerReturn where
  | read (result : Except LinkError (Option Reading))
  | polled (result : Except LinkError Bool)
  | answered (result : Except LinkError Unit)

namespace ServerReturn

def reading? : ServerReturn → Option Reading
  | .read (.ok request) => request
  | _ => none

def owing? : ServerReturn → Option Bool
  | .read (.ok (some _)) => some true
  | .answered (.ok ()) => some false
  | _ => none

def readings (returns : List ServerReturn) : List Reading :=
  returns.filterMap reading?

theorem readings_cons (made : ServerReturn) (later : List ServerReturn) :
    readings (made :: later) = made.reading?.toList ++ readings later := by
  rw [readings, List.filterMap_cons]
  cases made.reading? <;> rfl

/-- Whether a reply is owed after some calls: the last that read or answered a request tells. -/
def owing (before : Bool) (returns : List ServerReturn) : Bool :=
  (returns.reverse.findSome? owing?).getD before

theorem owing_cons (before : Bool) (made : ServerReturn) (later : List ServerReturn) :
    owing before (made :: later) = owing (made.owing?.getD before) later := by
  unfold owing
  rw [List.reverse_cons, List.findSome?_append]
  cases later.reverse.findSome? owing? with
  | some found => rfl
  | none => cases isOwing : made.owing? <;> simp [isOwing]

end ServerReturn

namespace ServerCall

variable (server : Responder)

def perform : ServerCall → Inflow → ServerReturn × Inflow
  | .receive timeout, inflow =>
      (server.receive Inflow.fabric timeout inflow).map
        (fun result => .read (result.map (Option.map .joined))) id
  | .receiveFrames timeout, inflow =>
      (server.receiveFrames Inflow.fabric timeout inflow).map
        (fun result => .read (result.map (Option.map .apart))) id
  | .poll wait, inflow => (server.poll Inflow.fabric wait inflow).map .polled id
  | .send reply, inflow => (server.send Inflow.fabric reply inflow).map .answered id
  | .sendFrames frames, inflow => (server.sendFrames Inflow.fabric frames inflow).map .answered id

def run : List ServerCall → Inflow → List ServerReturn × Inflow
  | [], inflow => ([], inflow)
  | call :: later, inflow =>
      match call.perform server inflow with
      | (made, inflow) => (run later inflow).map (made :: ·) id

theorem run_cons (call : ServerCall) (later : List ServerCall) (inflow : Inflow) :
    run server (call :: later) inflow =
      ((call.perform server inflow).1 :: (run server later (call.perform server inflow).2).1,
        (run server later (call.perform server inflow).2).2) :=
  rfl

end ServerCall

/-- A server's socket has taken a request that it has not answered. -/
def NetworkSocket.owes (socket : NetworkSocket) : Bool :=
  socket.isReady .writable

theorem NetworkSocket.owes_eq_false_iff {socket : NetworkSocket} :
    socket.owes = false ↔ socket.turn = .toReceive := by
  simp [owes, isReady]

theorem NetworkSocket.exists_peer_of_owes {socket : NetworkSocket} (owes : socket.owes = true) :
    ∃ peer, socket.turn = .toSend peer := by
  cases turn : socket.turn with
  | toSend peer => exact ⟨peer, rfl⟩
  | toReceive =>
      rw [NetworkSocket.owes_eq_false_iff.mpr turn] at owes
      cases owes

namespace Inflow

variable {begun inflow middle after : Inflow} {server : Responder}
  {socket changed : NetworkSocket} {messages : List Parcel}

structure Serves (inflow : Inflow) (server : Responder) (socket : NetworkSocket) : Prop where
  listens : server.lifecycle.socket = some inflow.reader
  holds : inflow.Holds socket
  role : socket.role = .responder
  owesOther : socket.turn ≠ .toSend (some inflow.reader)
  fromOthers : ∀ parcel ∈ socket.inbox ++ inflow.script.flatten, parcel.sender ≠ inflow.reader

structure Handles (before : Inflow) (server : Responder) (socket : NetworkSocket)
    (made : ServerReturn) (after : Inflow) : Prop where
  serves : ∃ changed, after.Serves server changed ∧
    changed.owes = made.owing?.getD socket.owes
  hands : Hands (fun reading parcel => reading.IsOf parcel.frames) before made.reading?.toList after

namespace Serves

theorem live (serves : inflow.Serves server socket) :
    server.lifecycle.live = .ok inflow.reader := by
  rw [Lifecycle.live, serves.listens]

/-- The server goes on with what became of its socket. -/
theorem of_comes (serves : inflow.Serves server socket)
    (comes : Comes inflow messages after changed) (role : changed.role = .responder)
    (owesOther : changed.turn ≠ .toSend (some inflow.reader))
    (inbox : changed.inbox ⊆ socket.inbox ++ messages) : after.Serves server changed where
  listens := by rw [comes.reader]; exact serves.listens
  holds := comes.holds
  role := role
  owesOther := by rwa [comes.reader]
  fromOthers parcel member := by
    have fromOthers := serves.fromOthers parcel
    rw [comes.script, ← List.append_assoc] at fromOthers
    rw [comes.reader]
    rcases List.mem_append.mp member with waits | isLater
    · exact fromOthers (List.mem_append_left _ (inbox waits))
    · exact fromOthers (List.mem_append_right _ isLater)

/-- The server's socket has messages more, and else is as it was. -/
theorem of_idle (serves : inflow.Serves server socket)
    (comes : Comes inflow messages after (holding socket messages)) {made : ServerReturn}
    (unread : made.reading? = none) (unchanged : made.owing? = none) :
    Handles inflow server socket made after where
  serves := ⟨_, serves.of_comes comes serves.role serves.owesOther (List.Subset.refl _),
    by rw [unchanged]; rfl⟩
  hands := by rw [unread]; exact .of_nothing serves.holds comes rfl

theorem of_read (serves : inflow.Serves server socket)
    (comes : Comes inflow messages after (afterReading socket (socket.inbox ++ messages)))
    (reading : Parcel → Reading) (isOf : ∀ parcel, (reading parcel).IsOf parcel.frames) :
    Handles inflow server socket
      (.read (.ok ((socket.inbox ++ messages).head?.map reading))) after where
  serves := by
    have fromOthers (parcel : Parcel) (member : parcel ∈ socket.inbox ++ messages) :
        parcel.sender ≠ inflow.reader := by
      refine serves.fromOthers parcel ?_
      rw [comes.script, ← List.append_assoc]
      exact List.mem_append_left _ member
    cases queue : socket.inbox ++ messages with
    | nil =>
        rw [queue] at comes
        refine ⟨_, serves.of_comes comes serves.role serves.owesOther (List.nil_subset _), ?_⟩
        rfl
    | cons parcel rest =>
        rw [queue] at comes
        have peer : (Network.afterMessage socket parcel rest).turn =
            .toSend (some parcel.sender) := by
          rw [Network.afterMessage, serves.role]
          rfl
        refine ⟨_, serves.of_comes comes serves.role ?_ ?_, ?_⟩
        · rw [show (afterReading socket (parcel :: rest)).turn = _ from peer]
          intro same
          refine fromOthers parcel (by rw [queue]; exact List.mem_cons_self) ?_
          exact Option.some.inj (Turn.toSend.inj same)
        · rw [inbox_afterReading, queue]
          exact List.subset_cons_self parcel rest
        · unfold NetworkSocket.owes NetworkSocket.isReady
          rw [show (afterReading socket (parcel :: rest)).turn = _ from peer]
          rfl
  hands := .of_read serves.holds isOf comes

/-- The server's socket has sent a reply in its turn. -/
theorem of_sent (serves : inflow.Serves server socket)
    (comes : Comes inflow messages after (holding (Network.afterSending socket) messages)) :
    Handles inflow server socket (.answered (.ok ())) after where
  serves := by
    have turn : (Network.afterSending socket).turn = .toReceive := by
      rw [Network.afterSending, serves.role]
      rfl
    refine ⟨_, serves.of_comes comes serves.role ?_ (List.Subset.refl _), ?_⟩
    · rw [show (holding (Network.afterSending socket) messages).turn = _ from turn]
      nofun
    · exact NetworkSocket.owes_eq_false_iff.mpr turn
  hands := .of_nothing serves.holds comes rfl

/-- In its turn a server reads the oldest request, frame by frame. -/
theorem receiveFrames_eq (serves : inflow.Serves server socket) (turn : socket.turn = .toReceive)
    (timeout : Option Duration) :
    ∃ messages after,
      server.receiveFrames fabric timeout inflow =
          (.ok ((socket.inbox ++ messages).head?.map Parcel.frames), after) ∧
        Comes inflow messages after (afterReading socket (socket.inbox ++ messages)) := by
  obtain ⟨messages, after, read, comes⟩ := readWithin_eq serves.holds turn timeout
  refine ⟨messages, after, ?_, comes⟩
  unfold Responder.receiveFrames Lifecycle.receiving
  rw [serves.live]
  dsimp only
  rw [read]

theorem receiveFrames_out_of_turn (serves : inflow.Serves server socket) {peer : Option SocketId}
    (turn : socket.turn = .toSend peer) (timeout : Option Duration) :
    ∃ messages after,
      server.receiveFrames fabric timeout inflow =
          (match timeout with
            | none => .error (.receiveFailed SocketFault.wrongState.message)
            | some _ => .ok none, after) ∧
        Comes inflow messages after (holding socket messages) := by
  obtain ⟨messages, after, read, comes⟩ := readWithin_out_of_turn serves.holds turn timeout
  refine ⟨messages, after, ?_, comes⟩
  unfold Responder.receiveFrames Lifecycle.receiving
  rw [serves.live]
  dsimp only
  rw [read, serves.role]
  cases timeout <;> rfl

/-- A server that reads takes a request whole, or none. -/
theorem reads (serves : inflow.Serves server socket) (timeout : Option Duration) :
    Handles inflow server socket
        ((ServerCall.receiveFrames timeout).perform server inflow).1
        ((ServerCall.receiveFrames timeout).perform server inflow).2 ∧
      Handles inflow server socket ((ServerCall.receive timeout).perform server inflow).1
        ((ServerCall.receive timeout).perform server inflow).2 := by
  unfold ServerCall.perform
  dsimp only
  rw [server.receive_eq]
  cases turn : socket.turn with
  | toReceive =>
      obtain ⟨messages, after, read, comes⟩ := serves.receiveFrames_eq turn timeout
      have apart := serves.of_read comes (fun parcel => .apart parcel.frames) fun parcel => rfl
      have joined := serves.of_read comes (fun parcel => .joined parcel.payload) fun parcel => rfl
      rw [read]
      cases queue : socket.inbox ++ messages with
      | nil =>
          rw [queue] at apart joined
          exact ⟨apart, joined⟩
      | cons parcel rest =>
          rw [queue] at apart joined
          exact ⟨apart, joined⟩
  | toSend peer =>
      obtain ⟨messages, after, read, comes⟩ := serves.receiveFrames_out_of_turn turn timeout
      rw [read]
      cases timeout <;> exact ⟨serves.of_idle comes rfl rfl, serves.of_idle comes rfl rfl⟩

theorem polls (serves : inflow.Serves server socket) (wait : Duration) :
    Handles inflow server socket ((ServerCall.poll wait).perform server inflow).1
      ((ServerCall.poll wait).perform server inflow).2 := by
  obtain ⟨messages, after, polled, comes⟩ := pollReadable_eq serves.holds (.lasting wait)
  unfold ServerCall.perform Responder.poll Lifecycle.receiving
  rw [serves.live]
  dsimp only
  rw [polled]
  exact serves.of_idle comes rfl rfl

/-- A server answers in its turn, and is refused out of it. -/
theorem sends (serves : inflow.Serves server socket) (first : ByteArray) (rest : List ByteArray) :
    Handles inflow server socket
      ((ServerCall.sendFrames (first :: rest)).perform server inflow).1
      ((ServerCall.sendFrames (first :: rest)).perform server inflow).2 := by
  unfold ServerCall.perform Responder.sendFrames Lifecycle.sending
  rw [serves.live]
  dsimp only [List.isEmpty_cons]
  cases turn : socket.turn with
  | toReceive =>
      obtain ⟨messages, after, refused, comes⟩ :=
        send_out_of_turn serves.holds turn first (!rest.isEmpty)
      rw [Fabric.sendFrames, refused]
      exact serves.of_idle comes rfl rfl
  | toSend peer =>
      have other : peer ≠ some inflow.reader := by
        rintro rfl
        exact serves.owesOther turn
      obtain ⟨messages, after, sent, comes⟩ :=
        sendFrames_eq serves.holds serves.role turn other first rest
      rw [sent]
      exact serves.of_sent comes

theorem perform (serves : inflow.Serves server socket) (call : ServerCall) :
    Handles inflow server socket (call.perform server inflow).1
      (call.perform server inflow).2 := by
  cases call with
  | receive timeout => exact (serves.reads timeout).2
  | receiveFrames timeout => exact (serves.reads timeout).1
  | poll wait => exact serves.polls wait
  | send reply =>
      have sends := serves.sends reply []
      unfold ServerCall.perform at sends ⊢
      dsimp only at sends ⊢
      rwa [server.sendFrames_singleton] at sends
  | sendFrames frames =>
      cases frames with
      | nil =>
          have same : Comes inflow [] inflow (holding socket []) := by
            rw [holding_nil]
            exact .refl serves.holds
          exact serves.of_idle same rfl rfl
      | cons first rest => exact serves.sends first rest

/-- What a run of calls has read, what it left, and whether a reply is owed after it. -/
theorem run (serves : inflow.Serves server socket) (calls : List ServerCall) :
    ∃ changed, (ServerCall.run server calls inflow).2.Serves server changed ∧
      changed.owes = ServerReturn.owing socket.owes (ServerCall.run server calls inflow).1 ∧
      Hands (fun reading parcel => reading.IsOf parcel.frames) inflow
        (ServerReturn.readings (ServerCall.run server calls inflow).1)
        (ServerCall.run server calls inflow).2 := by
  induction calls generalizing inflow socket with
  | nil => exact ⟨socket, serves, rfl, .refl inflow⟩
  | cons call later ih =>
      obtain ⟨⟨middle, again, owes⟩, hands⟩ := serves.perform call
      obtain ⟨changed, last, owesLater, handsLater⟩ := ih again
      refine ⟨changed, last, ?_, ?_⟩
      · rw [ServerCall.run_cons, ServerReturn.owing_cons, ← owes]
        exact owesLater
      · rw [ServerCall.run_cons, ServerReturn.readings_cons]
        exact hands.trans handsLater

end Serves

end Inflow

end TaskLink
