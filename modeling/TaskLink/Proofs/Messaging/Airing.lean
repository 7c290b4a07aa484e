import TaskLink.Messaging.Broadcaster
import TaskLink.Proofs.Messaging.SubscriberReads

/-!
# A subscriber while its publisher goes on

A publisher and a subscriber are on one network, and before each operation of
the subscriber the publisher sends as many messages as were laid down for it.
So messages arrive between two reads as well as in the middle of one.  What one
call returns depends only on what was waiting and what arrived meanwhile.
-/

namespace TaskLink

/-- A network with a publisher that goes on publishing before a subscriber's next operations. -/
structure Airing where
  network : Network
  publisher : Broadcaster
  /-- What is published before each of the next operations. -/
  script : List (List ByteArray) := []
  /-- What was published so far, the first message first. -/
  published : List ByteArray := []

namespace Airing

/-! ## Operations -/

/-- Whether a message was accepted. -/
def isAccepted : Except LinkError Bool → Bool
  | .ok accepted => accepted
  | .error _ => false

def publish (message : ByteArray) (airing : Airing) : Except LinkError Bool × Airing :=
  match airing.publisher.publish Network.fabric message airing.network with
  | (result, network) =>
      (result, { airing with
        network := network
        published := airing.published ++ if isAccepted result then [message] else [] })

def publishAll (messages : List ByteArray) (airing : Airing) : Airing :=
  messages.foldl (fun airing message => (airing.publish message).2) airing

def pass (airing : Airing) : Airing :=
  match airing.script with
  | [] => airing
  | messages :: later => publishAll messages { airing with script := later }

def around {α : Type} (operation : Network → α × Network) (airing : Airing) : α × Airing :=
  let passed := airing.pass
  match operation passed.network with
  | (value, network) => (value, { passed with network := network })

/-- What the subscriber asks of the messaging library; what is still to come counts as backlog. -/
def fabric : Fabric Airing where
  newContext := around Network.fabric.newContext
  openSocket context role endpoint options :=
    around (Network.fabric.openSocket context role endpoint options)
  closeSocket socket airing :=
    (airing.around fun network => ((), Network.fabric.closeSocket socket network)).2
  send socket message more := around (Network.fabric.send socket message more)
  receive socket := around (Network.fabric.receive socket)
  poll socket readiness wait := around (Network.fabric.poll socket readiness wait)
  backlog socket airing :=
    Network.fabric.backlog socket airing.network + airing.script.flatten.length
  clock airing := Network.fabric.clock airing.network
  sleep span airing := (airing.around fun network => ((), Network.fabric.sleep span network)).2

def waiting (airing : Airing) (subscriber : Subscriber) : List ByteArray :=
  match subscriber.lifecycle.socket.bind airing.network.find? with
  | some socket => socket.inbox.map Parcel.payload
  | none => []

/-! ## Connected sockets -/

/-- A publisher's socket between two messages, and a subscriber's that is connected to it. -/
structure Wiring where
  sender : SocketId
  publishing : NetworkSocket
  receiver : SocketId
  subscribed : NetworkSocket
  publishes : publishing.role = .publisher
  mayPublish : publishing.turn = .toSend none
  between : publishing.composed = []
  subscribes : subscribed.role = .subscriber
  mayReceive : subscribed.turn = .toReceive
  isLocal : subscribed.endpoint.isLocal = true
  samePort : subscribed.endpoint.port = publishing.endpoint.port

def Wiring.holding (wiring : Wiring) (queue : List ByteArray) : NetworkSocket :=
  { wiring.subscribed with inbox := queue.map fun message => ⟨wiring.sender, message, []⟩ }

/-- Publisher and subscriber are wired, and messages wait to be read. -/
structure OnAir (airing : Airing) (wiring : Wiring) (subscriber : Subscriber)
    (queue : List ByteArray) : Prop where
  sends : airing.publisher.lifecycle.socket = some wiring.sender
  listens : subscriber.lifecycle.socket = some wiring.receiver
  publisher : airing.network.usable wiring.sender = .ok wiring.publishing
  receiver : airing.network.usable wiring.receiver = .ok (wiring.holding queue)

variable {airing : Airing} {wiring : Wiring} {subscriber : Subscriber} {queue : List ByteArray}

namespace OnAir

theorem isSubscribed (onAir : airing.OnAir wiring subscriber queue) :
    airing.network.IsSubscribed wiring.receiver (wiring.holding queue) :=
  ⟨onAir.receiver, wiring.subscribes, wiring.mayReceive⟩

theorem sender_ne_receiver (onAir : airing.OnAir wiring subscriber queue) :
    wiring.sender ≠ wiring.receiver := by
  intro same
  have usable := onAir.publisher
  rw [same, onAir.receiver] at usable
  have sameRole : (wiring.holding queue).role = wiring.publishing.role :=
    congrArg NetworkSocket.role (Except.ok.inj usable)
  rw [Wiring.holding, wiring.subscribes, wiring.publishes] at sameRole
  cases sameRole

theorem waiting_eq (onAir : airing.OnAir wiring subscriber queue) :
    airing.waiting subscriber = queue := by
  have found := (Network.usable_eq_ok_iff.mp onAir.receiver).1
  unfold waiting
  rw [onAir.listens, Option.bind_some, found]
  dsimp only [Wiring.holding]
  rw [List.map_map]
  exact List.map_id queue

theorem backlog_eq (onAir : airing.OnAir wiring subscriber queue) :
    subscriber.backlog fabric airing = queue.length + airing.script.flatten.length := by
  have backlog := onAir.isSubscribed.backlog_eq
  unfold Subscriber.backlog
  rw [onAir.listens]
  change Network.fabric.backlog wiring.receiver airing.network + _ = _
  rw [backlog]
  simp [Wiring.holding]

theorem replace (onAir : airing.OnAir wiring subscriber queue) {network : Network}
    {left : List ByteArray}
    (replaces : Network.Replaces airing.network network wiring.receiver (wiring.holding left)) :
    OnAir { airing with network := network } wiring subscriber left where
  sends := onAir.sends
  listens := onAir.listens
  publisher := replaces.usable_other onAir.sender_ne_receiver onAir.publisher
  receiver := replaces.usable onAir.receiver rfl

/-! ## Publishing -/

theorem usable_sender (onAir : airing.OnAir wiring subscriber queue) {message : ByteArray}
    {network : Network}
    (sent : Network.fabric.send wiring.sender message false airing.network = (.ok (), network)) :
    network.usable wiring.sender = .ok wiring.publishing := by
  obtain ⟨middle, replaces, sending⟩ :=
    Network.send_last onAir.publisher wiring.mayPublish message
  cases sending.symm.trans sent
  have unchanged := Network.afterSending_of_publisher wiring.publishes wiring.mayPublish wiring.between
  obtain ⟨found, alive⟩ := Network.usable_eq_ok_iff.mp (replaces.usable onAir.publisher rfl)
  rw [unchanged] at found alive
  have notSubscriber : (wiring.publishing.role = .subscriber) = False := by
    rw [wiring.publishes]
    exact eq_false SocketRole.noConfusion
  rw [Network.dispatch, wiring.publishes]
  refine Network.usable_eq_ok_iff.mpr ⟨?_, alive⟩
  change (Network.broadcast middle _ _).find? wiring.sender = _
  rw [Network.find?_broadcast, found]
  simp [notSubscriber]

/-- What is published is accepted, and waits behind the others. -/
theorem publish (onAir : airing.OnAir wiring subscriber queue) (message : ByteArray) :
    ∃ network,
      airing.publish message = (.ok true,
        { airing with network := network, published := airing.published ++ [message] }) ∧
      OnAir { airing with network := network, published := airing.published ++ [message] } wiring
        subscriber (queue ++ [message]) := by
  obtain ⟨network, sent, brings⟩ := Network.Brings.publish onAir.publisher wiring.publishes
    wiring.mayPublish wiring.between onAir.isSubscribed wiring.isLocal wiring.samePort message
  refine ⟨network, ?_, onAir.sends, onAir.listens, onAir.usable_sender sent, ?_⟩
  · unfold Airing.publish Broadcaster.publish Lifecycle.sending Lifecycle.live
    rw [onAir.sends]
    dsimp only
    rw [sent]
    rfl
  · have usable := brings.usable _ onAir.receiver
    unfold Wiring.holding at usable ⊢
    rw [List.map_append]
    exact usable

end OnAir

/-! ## What goes on meanwhile -/

/-- The publisher went on while the subscriber did something: what was published, and what is left. -/
structure Airs (before : Airing) (wiring : Wiring) (subscriber : Subscriber)
    (arrived : List ByteArray) (after : Airing) (left : List ByteArray) : Prop where
  onAir : after.OnAir wiring subscriber left
  published : after.published = before.published ++ arrived
  script : before.script.flatten = arrived ++ after.script.flatten

namespace Airs

variable {before middle after : Airing} {arrived later left left' : List ByteArray}

theorem refl (onAir : airing.OnAir wiring subscriber queue) :
    Airs airing wiring subscriber [] airing queue :=
  ⟨onAir, (List.append_nil _).symm, rfl⟩

theorem trans (one : Airs before wiring subscriber arrived middle left)
    (two : Airs middle wiring subscriber later after left') :
    Airs before wiring subscriber (arrived ++ later) after left' where
  onAir := two.onAir
  published := by rw [two.published, one.published, List.append_assoc]
  script := by rw [one.script, two.script, List.append_assoc]

theorem replace (airs : Airs before wiring subscriber arrived after left) {network : Network}
    (replaces : Network.Replaces after.network network wiring.receiver (wiring.holding left')) :
    Airs before wiring subscriber arrived { after with network := network } left' :=
  ⟨airs.onAir.replace replaces, airs.published, airs.script⟩

end Airs

/-- All that is published on the way waits behind the others. -/
theorem publishAll_onAir (onAir : airing.OnAir wiring subscriber queue)
    (messages : List ByteArray) :
    (airing.publishAll messages).OnAir wiring subscriber (queue ++ messages) ∧
      (airing.publishAll messages).published = airing.published ++ messages ∧
      (airing.publishAll messages).script = airing.script := by
  induction messages generalizing airing queue with
  | nil => exact ⟨by rwa [List.append_nil], (List.append_nil _).symm, rfl⟩
  | cons message rest ih =>
      obtain ⟨network, published, again⟩ := onAir.publish message
      obtain ⟨last, all, script⟩ := ih again
      unfold publishAll at last all script ⊢
      rw [List.foldl_cons, published]
      refine ⟨?_, ?_, script⟩
      · rwa [List.append_assoc] at last
      · rwa [List.append_assoc] at all

theorem pass_airs (onAir : airing.OnAir wiring subscriber queue) :
    ∃ arrived, Airs airing wiring subscriber arrived airing.pass (queue ++ arrived) := by
  unfold pass
  cases script : airing.script with
  | nil =>
      refine ⟨[], ?_⟩
      rw [List.append_nil]
      exact .refl onAir
  | cons messages later =>
      have rest : OnAir { airing with script := later } wiring subscriber queue :=
        ⟨onAir.sends, onAir.listens, onAir.publisher, onAir.receiver⟩
      obtain ⟨last, all, kept⟩ := publishAll_onAir rest messages
      refine ⟨messages, last, all, ?_⟩
      rw [script, List.flatten_cons, kept]

/-! ## Reading -/

/-- A socket is read after what is published before: nothing is there, or the oldest is read. -/
theorem receiveJoined_eq (onAir : airing.OnAir wiring subscriber queue) :
    ∃ arrived after,
      fabric.receiveJoined wiring.receiver airing =
          (match (queue ++ arrived).head? with
            | some message => .ok message
            | none => .error .wouldBlock, after) ∧
        Airs airing wiring subscriber arrived after (queue ++ arrived).tail := by
  obtain ⟨arrived, passed⟩ := pass_airs onAir
  refine ⟨arrived, ?_⟩
  have received : fabric.receive wiring.receiver airing =
      (match airing.pass.network.receive wiring.receiver with
        | (value, network) => (value, { airing.pass with network := network })) := rfl
  unfold Fabric.receiveJoined
  rw [received]
  cases inbox : queue ++ arrived with
  | nil =>
      have subscribed := passed.onAir.isSubscribed
      have blocked : airing.pass.network.receive wiring.receiver =
          (.error .wouldBlock, airing.pass.network) := by
        refine Network.receive_empty subscribed.usable wiring.mayReceive ?_
        rw [inbox]
        rfl
      rw [inbox] at passed
      rw [blocked]
      exact ⟨_, rfl, passed⟩
  | cons message rest =>
      have holds : (wiring.holding (queue ++ arrived)).inbox =
          ⟨wiring.sender, message, []⟩ :: (wiring.holding rest).inbox := by
        rw [inbox]
        rfl
      obtain ⟨network, read, replaces⟩ :=
        Network.receive_last passed.onAir.receiver wiring.mayReceive holds
      have stays := passed.onAir.isSubscribed.afterMessage_eq ⟨wiring.sender, message, []⟩
        (wiring.holding rest).inbox
      unfold Network.afterMessage at stays
      rw [stays] at replaces
      rw [read]
      exact ⟨_, rfl, passed.replace replaces⟩

/-- A poll for something to read finds what is published before it. -/
theorem pollReadable_eq (onAir : airing.OnAir wiring subscriber queue) (wait : Wait) :
    ∃ arrived after,
      fabric.pollReadable wiring.receiver wait airing = (.ok !(queue ++ arrived).isEmpty, after) ∧
        Airs airing wiring subscriber arrived after (queue ++ arrived) := by
  obtain ⟨arrived, passed⟩ := pass_airs onAir
  obtain ⟨network, polled, replaces⟩ := passed.onAir.isSubscribed.poll wait
  have empty : (wiring.holding (queue ++ arrived)).inbox.isEmpty = (queue ++ arrived).isEmpty := by
    rw [Wiring.holding, List.isEmpty_map]
  have step : fabric.poll wiring.receiver .readable wait airing =
      (match airing.pass.network.poll wiring.receiver .readable wait with
        | (value, network) => (value, { airing.pass with network := network })) := rfl
  refine ⟨arrived, _, ?_, passed.replace replaces⟩
  unfold Fabric.pollReadable
  rw [step, polled, empty]

/-- What is read is the oldest message of those that were waiting or arrived meanwhile. -/
theorem receive_eq (onAir : airing.OnAir wiring subscriber queue) (timeout : Option Duration) :
    ∃ arrived after,
      subscriber.receive fabric timeout airing = (.ok (queue ++ arrived).head?, after) ∧
        Airs airing wiring subscriber arrived after (queue ++ arrived).tail := by
  unfold Subscriber.receive Lifecycle.receiving Lifecycle.live
  rw [onAir.listens]
  dsimp only [Fabric.readWithin]
  cases timeout with
  | none =>
      obtain ⟨arrived, after, read, airs⟩ := receiveJoined_eq onAir
      refine ⟨arrived, after, ?_, airs⟩
      dsimp only
      rw [read]
      cases (queue ++ arrived).head? <;> rfl
  | some wait =>
      obtain ⟨arrived, polled, ready, airs⟩ := pollReadable_eq onAir (.lasting wait)
      dsimp only
      rw [ready]
      cases inbox : queue ++ arrived with
      | nil =>
          rw [inbox] at airs
          exact ⟨arrived, polled, by rw [inbox]; rfl, by rwa [inbox]⟩
      | cons oldest rest =>
          obtain ⟨more, after, read, later⟩ := receiveJoined_eq airs.onAir
          rw [inbox, List.cons_append, List.head?_cons] at read
          refine ⟨arrived ++ more, after, ?_, ?_⟩
          · rw [← List.append_assoc, inbox, List.cons_append, List.head?_cons]
            rw [List.isEmpty_cons, Bool.not_false]
            dsimp only
            rw [read]
          · rw [← List.append_assoc]
            exact airs.trans later

/-- Reading on takes all that is waiting or arrives meanwhile, and keeps the newest. -/
theorem drain_eq (onAir : airing.OnAir wiring subscriber queue) {count : Nat}
    (enough : queue.length + airing.script.flatten.length < count) (latest : ByteArray) :
    ∃ arrived after,
      subscriber.drain fabric count latest airing =
          (.ok (some ((queue ++ arrived).getLastD latest)), after) ∧
        Airs airing wiring subscriber arrived after [] := by
  induction count generalizing airing queue latest with
  | zero => exact absurd enough (Nat.not_lt_zero _)
  | succ count ih =>
      obtain ⟨arrived, middle, read, airs⟩ := receive_eq onAir none
      rw [Subscriber.drain, read]
      cases inbox : queue ++ arrived with
      | nil =>
          rw [inbox] at airs
          exact ⟨arrived, middle, by rw [inbox]; rfl, airs⟩
      | cons oldest rest =>
          rw [inbox, List.tail_cons] at airs
          -- One message fewer is waiting or still to come.
          have fewer : rest.length + middle.script.flatten.length < count := by
            have total := congrArg List.length inbox
            have script := congrArg List.length airs.script
            simp only [List.length_append, List.length_cons] at total script
            omega
          obtain ⟨more, after, drained, later⟩ := ih airs.onAir fewer oldest
          refine ⟨arrived ++ more, after, ?_, airs.trans later⟩
          dsimp only [List.head?_cons]
          rw [drained, ← List.append_assoc, inbox, List.cons_append, List.getLastD_cons]

/-- The newest message is received of all that were waiting or arrived meanwhile; none is left. -/
theorem receiveLatest_eq (onAir : airing.OnAir wiring subscriber queue)
    (timeout : Option Duration) :
    ∃ arrived after,
      subscriber.receiveLatest fabric timeout airing = (.ok (queue ++ arrived).getLast?, after) ∧
        Airs airing wiring subscriber arrived after [] := by
  obtain ⟨arrived, middle, read, airs⟩ := receive_eq onAir timeout
  rw [Subscriber.receiveLatest, read]
  cases inbox : queue ++ arrived with
  | nil =>
      rw [inbox] at airs
      exact ⟨arrived, middle, by rw [inbox]; rfl, airs⟩
  | cons oldest rest =>
      rw [inbox, List.tail_cons] at airs
      have backlog : subscriber.backlog fabric middle =
        rest.length + middle.script.flatten.length := airs.onAir.backlog_eq
      obtain ⟨more, after, drained, later⟩ :=
        drain_eq airs.onAir (Nat.lt_add_one _) oldest
      refine ⟨arrived ++ more, after, ?_, airs.trans later⟩
      dsimp only [List.head?_cons]
      rw [backlog, drained, ← List.append_assoc, inbox, List.cons_append, List.getLast?_cons,
        List.getLastD_eq_getLast?]

end Airing

end TaskLink
