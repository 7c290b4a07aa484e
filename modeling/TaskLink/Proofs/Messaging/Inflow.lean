import Mathlib.Data.List.Forall2
import TaskLink.Proofs.Messaging.SubscriberReads

/-!
# Messages that keep coming in

The owner of a socket reads it while others go on sending: before each of the
owner's operations as many messages come in as were laid down for it, also
between two frames of one message.  What one read takes is the oldest message,
whole, of those that were waiting or came in meanwhile.
-/

namespace TaskLink

/-- A network in which messages come in for one socket before its owner's next operations. -/
structure Inflow where
  network : Network
  reader : SocketId
  /-- What comes in before each of the next operations. -/
  script : List (List Parcel) := []
  /-- What has come in so far, the oldest message first. -/
  arrived : List Parcel := []

namespace Inflow

/-! ## Operations -/

/-- What comes in before the next operation. -/
def pass (inflow : Inflow) : Inflow :=
  match inflow.script with
  | [] => inflow
  | messages :: later =>
      { inflow with
        network := inflow.network.deliverAll messages inflow.reader
        script := later
        arrived := inflow.arrived ++ messages }

def around {α : Type} (operation : Network → α × Network) (inflow : Inflow) : α × Inflow :=
  let passed := inflow.pass
  match operation passed.network with
  | (value, network) => (value, { passed with network := network })

def fabric : Fabric Inflow where
  newContext := around Network.fabric.newContext
  openSocket context role endpoint options :=
    around (Network.fabric.openSocket context role endpoint options)
  closeSocket socket inflow :=
    (inflow.around fun network => ((), Network.fabric.closeSocket socket network)).2
  send socket message more := around (Network.fabric.send socket message more)
  receive socket := around (Network.fabric.receive socket)
  poll socket readiness wait := around (Network.fabric.poll socket readiness wait)
  backlog socket inflow := Network.fabric.backlog socket inflow.network
  clock inflow := Network.fabric.clock inflow.network
  sleep span inflow := (inflow.around fun network => ((), Network.fabric.sleep span network)).2

theorem reader_pass (inflow : Inflow) : inflow.pass.reader = inflow.reader := by
  unfold pass
  split <;> rfl

/-- What the owner does with its socket is done to the network that it finds. -/
theorem around_eq {α : Type} {inflow : Inflow} (operation : SocketId → Network → α × Network)
    {value : α} {network : Network}
    (done : operation inflow.pass.reader inflow.pass.network = (value, network)) :
    around (operation inflow.reader) inflow = (value, { inflow.pass with network := network }) := by
  rw [reader_pass] at done
  rw [around, done]

def waiting (inflow : Inflow) : List Parcel :=
  match inflow.network.find? inflow.reader with
  | some socket => socket.inbox
  | none => []

/-! ## What comes in meanwhile -/

def Holds (inflow : Inflow) (socket : NetworkSocket) : Prop :=
  inflow.network.usable inflow.reader = .ok socket

theorem Holds.waiting_eq {inflow : Inflow} {socket : NetworkSocket} (holds : inflow.Holds socket) :
    inflow.waiting = socket.inbox := by
  rw [waiting, (Network.usable_eq_ok_iff.mp holds).1]

/-- Some messages came in while the owner did something, which left its socket in a state. -/
structure Comes (before : Inflow) (messages : List Parcel) (after : Inflow)
    (socket : NetworkSocket) : Prop where
  holds : after.Holds socket
  reader : after.reader = before.reader
  arrived : after.arrived = before.arrived ++ messages
  script : before.script.flatten = messages ++ after.script.flatten

variable {inflow before middle after : Inflow} {messages later : List Parcel}
  {socket changed : NetworkSocket}

namespace Comes

theorem refl (holds : inflow.Holds socket) : Comes inflow [] inflow socket :=
  ⟨holds, rfl, (List.append_nil _).symm, rfl⟩

theorem trans (one : Comes before messages middle socket)
    (two : Comes middle later after changed) : Comes before (messages ++ later) after changed where
  holds := two.holds
  reader := two.reader.trans one.reader
  arrived := by rw [two.arrived, one.arrived, List.append_assoc]
  script := by rw [one.script, two.script, List.append_assoc]

theorem replace (comes : Comes before messages after socket) {network : Network}
    (replaces : Network.Replaces after.network network after.reader changed)
    (context : changed.context = socket.context) :
    Comes before messages { after with network := network } changed where
  holds := replaces.usable comes.holds context
  reader := comes.reader
  arrived := comes.arrived
  script := comes.script

end Comes

def holding (socket : NetworkSocket) (messages : List Parcel) : NetworkSocket :=
  { socket with inbox := socket.inbox ++ messages }

theorem holding_nil (socket : NetworkSocket) : holding socket [] = socket := by
  rw [holding, List.append_nil]

theorem holding_append (socket : NetworkSocket) (messages later : List Parcel) :
    holding (holding socket messages) later = holding socket (messages ++ later) := by
  simp [holding]

theorem Holds.pass (holds : inflow.Holds socket) :
    ∃ messages, Comes inflow messages inflow.pass (holding socket messages) := by
  unfold Inflow.pass
  cases script : inflow.script with
  | nil => exact ⟨[], by rw [holding_nil]; exact .refl holds⟩
  | cons messages later =>
      refine ⟨messages, ?_, rfl, rfl, by rw [script]; rfl⟩
      exact (Network.Brings.deliverAll inflow.network messages inflow.reader).usable socket holds

/-! ## Reading -/

def afterReading (socket : NetworkSocket) : List Parcel → NetworkSocket
  | [] => { socket with inbox := [] }
  | parcel :: later => Network.afterMessage socket parcel later

theorem inbox_afterReading (socket : NetworkSocket) (queue : List Parcel) :
    (afterReading socket queue).inbox = queue.tail := by
  cases queue <;> rfl

/-- The frames that follow are those of the message that was begun, whatever comes in meanwhile. -/
theorem collectFollowing_eq {sender : SocketId} {next : ByteArray} {rest : List ByteArray}
    {queue : List Parcel} (holds : inflow.Holds socket) (turn : socket.turn = .toReceive)
    (inbox : socket.inbox = ⟨sender, next, rest⟩ :: queue) (frames : List ByteArray) :
    ∃ messages after,
      fabric.collectFollowing inflow.reader (rest.length + 1) frames inflow =
          (.ok (frames ++ next :: rest), after) ∧
        Comes inflow messages after
          (Network.afterMessage socket ⟨sender, next, rest⟩ (queue ++ messages)) := by
  induction rest generalizing inflow socket next frames queue with
  | nil =>
      obtain ⟨messages, passed⟩ := holds.pass
      have inbox' : (holding socket messages).inbox =
          ⟨sender, next, []⟩ :: (queue ++ messages) := by
        rw [holding, inbox]
        rfl
      obtain ⟨network, received, replaces⟩ := Network.receive_last passed.holds turn inbox'
      have step : fabric.receive inflow.reader inflow =
          (.ok ⟨next, 0⟩, { inflow.pass with network := network }) :=
        around_eq Network.receive received
      refine ⟨messages, _, ?_, passed.replace replaces rfl⟩
      rw [List.length_nil, Fabric.collectFollowing, step]
      rfl
  | cons second rest ih =>
      obtain ⟨messages, passed⟩ := holds.pass
      have inbox' : (holding socket messages).inbox =
          ⟨sender, next, second :: rest⟩ :: (queue ++ messages) := by
        rw [holding, inbox]
        rfl
      obtain ⟨network, received, replaces⟩ := Network.receive_more passed.holds turn inbox'
      have begun := passed.replace replaces rfl
      have step : fabric.receive inflow.reader inflow =
          (.ok ⟨next, rest.length + 1⟩, { inflow.pass with network := network }) :=
        around_eq Network.receive received
      obtain ⟨more, after, collected, comes⟩ := ih begun.holds turn rfl (frames ++ [next])
      have total := begun.trans comes
      rw [List.append_assoc] at total
      refine ⟨messages ++ more, after, ?_, total⟩
      rw [List.length_cons, Fabric.collectFollowing, step]
      dsimp only
      rw [← begun.reader]
      rw [collected, List.append_assoc]
      rfl

/-- A socket that has its turn is read: nothing is there, or the oldest message is read whole. -/
theorem receiveFrames_eq (holds : inflow.Holds socket) (turn : socket.turn = .toReceive) :
    ∃ messages after,
      fabric.receiveFrames inflow.reader inflow =
          (match (socket.inbox ++ messages).head? with
            | some parcel => .ok parcel.frames
            | none => .error .wouldBlock, after) ∧
        Comes inflow messages after (afterReading socket (socket.inbox ++ messages)) := by
  obtain ⟨messages, passed⟩ := holds.pass
  unfold Fabric.receiveFrames
  cases queue : socket.inbox ++ messages with
  | nil =>
      have step : fabric.receive inflow.reader inflow = (.error .wouldBlock, inflow.pass) :=
        around_eq Network.receive (Network.receive_empty passed.holds turn queue)
      rw [step]
      refine ⟨messages, _, by rw [queue]; rfl, ?_⟩
      unfold holding at passed
      rw [queue] at passed ⊢
      exact passed
  | cons parcel rest =>
      obtain ⟨sender, frame, following⟩ := parcel
      cases following with
      | nil =>
          obtain ⟨network, read, replaces⟩ := Network.receive_last passed.holds turn queue
          have step : fabric.receive inflow.reader inflow =
              (.ok ⟨frame, 0⟩, { inflow.pass with network := network }) :=
            around_eq Network.receive read
          rw [step]
          refine ⟨messages, _, by rw [queue]; rfl, ?_⟩
          rw [queue]
          exact passed.replace replaces rfl
      | cons next following =>
          obtain ⟨network, read, replaces⟩ := Network.receive_more passed.holds turn queue
          have step : fabric.receive inflow.reader inflow =
              (.ok ⟨frame, following.length + 1⟩, { inflow.pass with network := network }) :=
            around_eq Network.receive read
          have begun := passed.replace replaces rfl
          obtain ⟨more, after, collected, comes⟩ :=
            collectFollowing_eq begun.holds turn rfl [frame]
          have total := begun.trans comes
          have queue' : socket.inbox ++ (messages ++ more) =
              ⟨sender, frame, next :: following⟩ :: (rest ++ more) := by
            rw [← List.append_assoc, queue]
            rfl
          refine ⟨messages ++ more, after, ?_, ?_⟩
          · rw [step, queue', ← passed.reader]
            exact collected
          · rw [queue']
            exact total

/-- A poll for something to read finds what came in before it. -/
theorem pollReadable_eq (holds : inflow.Holds socket) (wait : Wait) :
    ∃ messages after,
      fabric.pollReadable inflow.reader wait inflow =
          (.ok ((holding socket messages).isReady .readable), after) ∧
        Comes inflow messages after (holding socket messages) := by
  obtain ⟨messages, passed⟩ := holds.pass
  obtain ⟨network, polled, replaces⟩ := Network.poll_of_usable passed.holds .readable wait
  have step : fabric.poll inflow.reader .readable wait inflow =
      (.ok ((holding socket messages).isReady .readable),
        { inflow.pass with network := network }) :=
    around_eq (fun id => Network.poll id .readable wait) polled
  refine ⟨messages, _, ?_, passed.replace replaces rfl⟩
  unfold Fabric.pollReadable
  rw [step]

/-- What is read within a timeout is the oldest message that waited or came in meanwhile. -/
theorem readWithin_eq (holds : inflow.Holds socket) (turn : socket.turn = .toReceive)
    (timeout : Option Duration) :
    ∃ messages after,
      fabric.readWithin fabric.receiveFrames timeout inflow.reader inflow =
          (.ok ((socket.inbox ++ messages).head?.map Parcel.frames), after) ∧
        Comes inflow messages after (afterReading socket (socket.inbox ++ messages)) := by
  unfold Fabric.readWithin
  cases timeout with
  | none =>
      obtain ⟨messages, after, read, comes⟩ := receiveFrames_eq holds turn
      refine ⟨messages, after, ?_, comes⟩
      dsimp only
      rw [read]
      cases (socket.inbox ++ messages).head? <;> rfl
  | some wait =>
      obtain ⟨messages, polled, ready, comes⟩ := pollReadable_eq holds (.lasting wait)
      have isReady : (holding socket messages).isReady .readable =
          !(socket.inbox ++ messages).isEmpty := by
        simp [NetworkSocket.isReady, holding, turn]
      rw [isReady] at ready
      dsimp only
      rw [ready]
      cases queue : socket.inbox ++ messages with
      | nil =>
          refine ⟨messages, polled, by rw [queue]; rfl, ?_⟩
          unfold holding at comes
          rw [queue] at comes ⊢
          exact comes
      | cons parcel rest =>
          obtain ⟨more, after, read, later⟩ := receiveFrames_eq comes.holds turn
          have queue' : (holding socket messages).inbox ++ more = parcel :: (rest ++ more) := by
            rw [holding, queue]
            rfl
          have same : socket.inbox ++ (messages ++ more) = parcel :: (rest ++ more) := by
            rw [← List.append_assoc, queue]
            rfl
          rw [queue', comes.reader] at read
          rw [queue'] at later
          refine ⟨messages ++ more, after, ?_, ?_⟩
          · rw [same, List.isEmpty_cons, Bool.not_false]
            dsimp only
            rw [read]
            rfl
          · rw [same]
            exact comes.trans later

/-- A socket that has to send first is not read; only the wait for something to read is granted. -/
theorem readWithin_out_of_turn (holds : inflow.Holds socket) {peer : Option SocketId}
    (turn : socket.turn = .toSend peer) (timeout : Option Duration) :
    ∃ messages after,
      fabric.readWithin fabric.receiveFrames timeout inflow.reader inflow =
          (match timeout with
            | none => .error (Network.outOfTurn socket.role)
            | some _ => .ok none, after) ∧
        Comes inflow messages after (holding socket messages) := by
  unfold Fabric.readWithin
  cases timeout with
  | none =>
      obtain ⟨messages, passed⟩ := holds.pass
      have refused := Network.receive_out_of_turn passed.holds turn
      have step : fabric.receive inflow.reader inflow =
          (.error (Network.outOfTurn socket.role), inflow.pass) :=
        around_eq Network.receive refused
      refine ⟨messages, inflow.pass, ?_, passed⟩
      dsimp only
      rw [Fabric.receiveFrames, step]
      cases socket.role <;> rfl
  | some wait =>
      obtain ⟨messages, after, polled, comes⟩ := pollReadable_eq holds (.lasting wait)
      have isReady : (holding socket messages).isReady .readable = false := by
        simp [NetworkSocket.isReady, holding, turn]
      rw [isReady] at polled
      refine ⟨messages, after, ?_, comes⟩
      dsimp only
      rw [polled]

/-! ## What was read -/

/--
What was read are whole messages, the oldest of those that waited or came in,
and the others still wait in their order.
-/
def Hands {α : Type} (isOf : α → Parcel → Prop) (begun : Inflow) (values : List α)
    (after : Inflow) : Prop :=
  ∃ read messages, List.Forall₂ isOf values read ∧
    after.arrived = begun.arrived ++ messages ∧ read ++ after.waiting = begun.waiting ++ messages

section Hands

variable {α : Type} {isOf : α → Parcel → Prop} {begun : Inflow} {values later : List α}

theorem Hands.refl (inflow : Inflow) : Hands isOf inflow [] inflow :=
  ⟨[], [], .nil, (List.append_nil _).symm, (List.append_nil _).symm⟩

theorem Hands.trans (one : Hands isOf begun values middle) (two : Hands isOf middle later after) :
    Hands isOf begun (values ++ later) after := by
  obtain ⟨read, messages, whole, arrived, order⟩ := one
  obtain ⟨read', messages', whole', arrived', order'⟩ := two
  refine ⟨read ++ read', messages ++ messages', List.rel_append whole whole', ?_, ?_⟩
  · rw [arrived', arrived, List.append_assoc]
  · rw [List.append_assoc, order', ← List.append_assoc, order, List.append_assoc]

theorem Hands.of_nothing (holds : inflow.Holds socket) (comes : Comes inflow messages after changed)
    (inbox : changed.inbox = socket.inbox ++ messages) : Hands isOf inflow [] after := by
  refine ⟨[], messages, .nil, comes.arrived, ?_⟩
  rw [List.nil_append, comes.holds.waiting_eq, holds.waiting_eq, inbox]

theorem Hands.of_read (holds : inflow.Holds socket) {read : Parcel → α}
    (isRead : ∀ parcel, isOf (read parcel) parcel)
    (comes : Comes inflow messages after (afterReading socket (socket.inbox ++ messages))) :
    Hands isOf inflow ((socket.inbox ++ messages).head?.map read).toList after := by
  refine ⟨(socket.inbox ++ messages).head?.toList, messages, ?_, comes.arrived, ?_⟩
  · cases socket.inbox ++ messages with
    | nil => exact .nil
    | cons parcel rest => exact .cons (isRead parcel) .nil
  · rw [comes.holds.waiting_eq, holds.waiting_eq, inbox_afterReading]
    cases socket.inbox ++ messages <;> rfl

end Hands

/-! ## Computing -/

/-- Whether a socket of some role may be read next, and its owner sends nothing to itself. -/
def isReadableBy (inflow : Inflow) (role : SocketRole) : Bool :=
  match inflow.network.usable inflow.reader with
  | .error _ => false
  | .ok socket =>
      decide (socket.role = role) && decide (socket.turn = .toReceive) &&
        (socket.inbox ++ inflow.script.flatten).all fun parcel =>
          decide (parcel.sender ≠ inflow.reader)

theorem exists_of_isReadableBy {role : SocketRole} (isReadable : inflow.isReadableBy role = true) :
    ∃ socket, inflow.Holds socket ∧ socket.role = role ∧ socket.turn = .toReceive ∧
      ∀ parcel ∈ socket.inbox ++ inflow.script.flatten, parcel.sender ≠ inflow.reader := by
  unfold isReadableBy at isReadable
  split at isReadable
  · cases isReadable
  · next socket usable =>
      simp only [Bool.and_eq_true, decide_eq_true_eq, List.all_eq_true] at isReadable
      exact ⟨socket, usable, isReadable.1.1, isReadable.1.2, isReadable.2⟩

end Inflow

end TaskLink
