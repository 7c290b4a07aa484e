import TaskLink.Proofs.Messaging.Airing
import TaskLink.Proofs.Messaging.Ownership
import TaskLink.Text.Utf8

/-!
# What a subscriber sees of a stream

Calls on a publisher and on a subscriber that is connected to it follow one
another in any order, and the publisher may go on in the middle of a call of
the subscriber.  Whatever is read comes in the order in which it was published,
nothing is read twice, and only a call for the newest message skips any.
-/

namespace TaskLink

/-! ## Calls -/

inductive AiringCall where
  | publish (message : ByteArray)
  | receive (timeout : Option Duration)
  | receiveLatest (timeout : Option Duration)

inductive AiringReturn where
  | published (result : Except LinkError Bool)
  | read (result : Except LinkError (Option ByteArray))

namespace AiringReturn

def payload? : AiringReturn → Option ByteArray
  | .read (.ok message) => message
  | _ => none

/-- Whether the call did not fail, and its message was accepted if it had one. -/
def isSuccess : AiringReturn → Bool
  | .published result => Airing.isAccepted result
  | .read (.ok _) => true
  | .read (.error _) => false

def payloads (returns : List AiringReturn) : List ByteArray :=
  returns.filterMap payload?

theorem payloads_cons (made : AiringReturn) (later : List AiringReturn) :
    payloads (made :: later) = made.payload?.toList ++ payloads later := by
  rw [payloads, List.filterMap_cons]
  cases made.payload? <;> rfl

end AiringReturn

namespace AiringCall

variable (subscriber : Subscriber)

def perform : AiringCall → Airing → AiringReturn × Airing
  | .publish message, airing => (airing.publish message).map .published id
  | .receive timeout, airing => (subscriber.receive Airing.fabric timeout airing).map .read id
  | .receiveLatest timeout, airing =>
      (subscriber.receiveLatest Airing.fabric timeout airing).map .read id

def run : List AiringCall → Airing → List AiringReturn × Airing
  | [], airing => ([], airing)
  | call :: later, airing =>
      match call.perform subscriber airing with
      | (made, airing) => (run later airing).map (made :: ·) id

theorem run_cons (call : AiringCall) (later : List AiringCall) (airing : Airing) :
    run subscriber (call :: later) airing =
      ((call.perform subscriber airing).1 ::
          (run subscriber later (call.perform subscriber airing).2).1,
        (run subscriber later (call.perform subscriber airing).2).2) :=
  rfl

end AiringCall

/--
What a call comes to, by what was waiting for the subscriber and what was
published until the call returned, and what it leaves to be read.
-/
inductive ComesTo (queue arrived : List ByteArray) :
    AiringCall → AiringReturn → List ByteArray → Prop where
  | published {message : ByteArray} (only : arrived = [message]) :
      ComesTo queue arrived (.publish message) (.published (.ok true)) (queue ++ arrived)
  | received (timeout : Option Duration) :
      ComesTo queue arrived (.receive timeout) (.read (.ok (queue ++ arrived).head?))
        (queue ++ arrived).tail
  | receivedLatest (timeout : Option Duration) :
      ComesTo queue arrived (.receiveLatest timeout) (.read (.ok (queue ++ arrived).getLast?)) []

namespace ComesTo

variable {queue arrived left : List ByteArray} {call : AiringCall} {made : AiringReturn}

theorem isSuccess (comes : ComesTo queue arrived call made left) : made.isSuccess = true := by
  cases comes <;> rfl

/-- What was read and what is left are messages of before, in their order. -/
theorem sublist (comes : ComesTo queue arrived call made left) :
    (made.payload?.toList ++ left).Sublist (queue ++ arrived) := by
  cases comes with
  | published only => exact List.Sublist.refl _
  | received timeout =>
      generalize queue ++ arrived = messages
      cases messages <;> exact List.Sublist.refl _
  | receivedLatest timeout =>
      rw [List.append_nil]
      cases newest : (queue ++ arrived).getLast? with
      | none => exact List.nil_sublist _
      | some message => exact List.singleton_sublist.mpr (List.mem_of_getLast? newest)

/-- Nothing is lost but by a call for the newest message. -/
theorem complete (comes : ComesTo queue arrived call made left)
    (notLatest : ∀ timeout, call ≠ .receiveLatest timeout) :
    made.payload?.toList ++ left = queue ++ arrived := by
  cases comes with
  | published only => rfl
  | received timeout =>
      generalize queue ++ arrived = messages
      cases messages <;> rfl
  | receivedLatest timeout => exact absurd rfl (notLatest timeout)

theorem empties {timeout : Option Duration}
    (comes : ComesTo queue arrived (.receiveLatest timeout) made left) : left = [] := by
  cases comes
  rfl

/-- Where nothing waits and nothing arrives, nothing is read and nothing is left. -/
theorem silent (comes : ComesTo [] [] call made left) : made = .read (.ok none) ∧ left = [] := by
  cases comes with
  | published only => cases only
  | received timeout => exact ⟨rfl, rfl⟩
  | receivedLatest timeout => exact ⟨rfl, rfl⟩

end ComesTo

/-! ## Runs -/

namespace Airing

variable {airing begun after : Airing} {wiring : Wiring} {subscriber : Subscriber}
  {queue : List ByteArray}

theorem OnAir.perform (onAir : airing.OnAir wiring subscriber queue) (call : AiringCall) :
    ∃ arrived left,
      (call.perform subscriber airing).2.OnAir wiring subscriber left ∧
        (call.perform subscriber airing).2.published = airing.published ++ arrived ∧
        ComesTo queue arrived call (call.perform subscriber airing).1 left := by
  cases call with
  | publish message =>
      obtain ⟨network, published, again⟩ := onAir.publish message
      rw [AiringCall.perform, published]
      exact ⟨[message], _, again, rfl, .published rfl⟩
  | receive timeout =>
      obtain ⟨arrived, after, read, airs⟩ := receive_eq onAir timeout
      rw [AiringCall.perform, read]
      exact ⟨arrived, _, airs.onAir, airs.published, .received timeout⟩
  | receiveLatest timeout =>
      obtain ⟨arrived, after, read, airs⟩ := receiveLatest_eq onAir timeout
      rw [AiringCall.perform, read]
      exact ⟨arrived, _, airs.onAir, airs.published, .receivedLatest timeout⟩

/-- What a run of calls has read of the messages that waited or arrived, and what it left. -/
theorem OnAir.run (onAir : airing.OnAir wiring subscriber queue) (calls : List AiringCall) :
    ∃ arrived left,
      (AiringCall.run subscriber calls airing).2.OnAir wiring subscriber left ∧
        (AiringCall.run subscriber calls airing).2.published = airing.published ++ arrived ∧
        (∀ made ∈ (AiringCall.run subscriber calls airing).1, made.isSuccess = true) ∧
        (AiringReturn.payloads (AiringCall.run subscriber calls airing).1 ++ left).Sublist
          (queue ++ arrived) ∧
        ((∀ timeout, .receiveLatest timeout ∉ calls) →
          AiringReturn.payloads (AiringCall.run subscriber calls airing).1 ++ left =
            queue ++ arrived) := by
  induction calls generalizing airing queue with
  | nil =>
      refine ⟨[], queue, onAir, (List.append_nil _).symm, nofun, ?_, fun _ => ?_⟩
      · exact List.sublist_append_left queue []
      · exact (List.append_nil queue).symm
  | cons call later ih =>
      obtain ⟨arrived, middle, again, published, comes⟩ := onAir.perform call
      obtain ⟨more, left, last, publishedLater, successes, sublist, complete⟩ := ih again
      rw [AiringCall.run_cons, AiringReturn.payloads_cons]
      refine ⟨arrived ++ more, left, last, ?_, ?_, ?_, fun noLatest => ?_⟩
      · rw [publishedLater, published, List.append_assoc]
      · intro made member
        obtain rfl | member := List.mem_cons.mp member
        · exact comes.isSuccess
        · exact successes made member
      · have rest := sublist.append_left (call.perform subscriber airing).1.payload?.toList
        have first := comes.sublist.append_right more
        rw [List.append_assoc, List.append_assoc] at first
        rw [List.append_assoc]
        exact rest.trans first
      · have rest := complete fun timeout isLater =>
          noLatest timeout (List.mem_cons_of_mem _ isLater)
        have first := comes.complete fun timeout same => noLatest timeout (same ▸ List.mem_cons_self)
        rw [List.append_assoc, rest, ← List.append_assoc, first, List.append_assoc]

/-- Where nothing waits and nothing is published meanwhile, no call reads anything. -/
theorem OnAir.run_silent (onAir : airing.OnAir wiring subscriber []) (calls : List AiringCall)
    (nothing : (AiringCall.run subscriber calls airing).2.published = airing.published) :
    ∀ made ∈ (AiringCall.run subscriber calls airing).1, made = .read (.ok none) := by
  induction calls generalizing airing with
  | nil => nofun
  | cons call later ih =>
      obtain ⟨arrived, left, again, published, comes⟩ := onAir.perform call
      obtain ⟨more, _, _, publishedLater, -⟩ := again.run later
      have total : airing.published ++ (arrived ++ more) = airing.published ++ [] := by
        rw [← List.append_assoc, ← published, ← publishedLater, List.append_nil]
        exact nothing
      obtain ⟨rfl, rfl⟩ := List.append_eq_nil_iff.mp (List.append_cancel_left total)
      obtain ⟨isNone, rfl⟩ := comes.silent
      rw [List.append_nil] at published
      intro made member
      obtain rfl | member := List.mem_cons.mp member
      · exact isNone
      · exact ih again (nothing.trans published.symm) made member

/-! ## Streams -/

/-- The subscriber is connected to the publisher, and nothing was published yet. -/
def Begins (begun : Airing) (subscriber : Subscriber) : Prop :=
  begun.published = [] ∧ ∃ wiring, begun.OnAir wiring subscriber []

/-! ## Starting -/

/-- A lifecycle that is started holds a fresh socket, and the others stay as they were. -/
theorem openOn_joins {lifecycle opened : Lifecycle} {network after : Network} {id : SocketId}
    {context : ContextId}
    (opening : lifecycle.openOn Network.fabric context network = (.ok id, opened, after))
    (isNamed : network.IsNamed) (notResponder : lifecycle.role ≠ .responder) :
    opened.socket = some id ∧ after.IsNamed ∧
      after.usable id = .ok (Network.freshSocket context lifecycle.role lifecycle.endpoint) ∧
      ∀ key socket, network.usable key = .ok socket → after.usable key = .ok socket := by
  obtain ⟨_, _, opens, same⟩ | ⟨_, _, -, same⟩ :=
    Lifecycle.openOn_cases Network.fabric lifecycle context network
  · cases same.symm.trans opening
    obtain ⟨named, terminated, found, others⟩ := isNamed.openSocket notResponder opens
    have alive : network.isTerminated context = false := by
      have permitted := Network.exists_openSocket_iff.mp ⟨_, _, opens⟩
      unfold Network.openFault? at permitted
      split at permitted
      · cases permitted
      · next alive => exact Bool.eq_false_iff.mpr alive
    refine ⟨rfl, named, Network.usable_eq_ok_iff.mpr ⟨found, ?_⟩, fun key socket usable => ?_⟩
    · rwa [Network.isTerminated, terminated]
    · obtain ⟨found, alive⟩ := Network.usable_eq_ok_iff.mp usable
      refine Network.usable_eq_ok_iff.mpr ⟨others key socket found, ?_⟩
      rwa [Network.isTerminated, terminated]
  · cases same.symm.trans opening

theorem start_joins {lifecycle started : Lifecycle} {network after : Network} {id : SocketId}
    (isNamed : network.IsNamed) (notResponder : lifecycle.role ≠ .responder)
    (starts : lifecycle.start Network.fabric network = (.ok id, started, after)) :
    ∃ context, started.socket = some id ∧ after.IsNamed ∧
      after.usable id = .ok (Network.freshSocket context lifecycle.role lifecycle.endpoint) ∧
      ∀ key socket, network.usable key = .ok socket → after.usable key = .ok socket := by
  unfold Lifecycle.start at starts
  split at starts
  · cases starts
  · next idle =>
      have empty : lifecycle.socket = none := by
        rw [Lifecycle.isLive, Option.not_isSome_iff_eq_none] at idle
        exact idle
      have closed : lifecycle.close Network.fabric network = (lifecycle, network) := by
        rw [Lifecycle.close, empty]
      rw [Lifecycle.establish_eq, closed] at starts
      cases shared : lifecycle.shared with
      | some context =>
          rw [shared] at starts
          have joins := openOn_joins starts isNamed notResponder
          exact ⟨context, joins⟩
      | none =>
          rw [shared] at starts
          have joins := openOn_joins starts isNamed notResponder
          exact ⟨_, joins⟩

/-- A publisher and then a subscriber to it are started, and what is to be published is laid down. -/
theorem begins_of_start {publisher publishing listener connected : Lifecycle}
    {network middle last : Network} {sender receiver : SocketId}
    (first : publisher.start Network.fabric network = (.ok sender, publishing, middle))
    (second : listener.start Network.fabric middle = (.ok receiver, connected, last))
    (isNamed : network.IsNamed) (publishes : publisher.role = .publisher)
    (subscribes : listener.role = .subscriber) (isLocal : listener.endpoint.isLocal = true)
    (samePort : listener.endpoint.port = publisher.endpoint.port)
    (script : List (List ByteArray)) :
    Begins { network := last, publisher := ⟨publishing⟩, script := script } ⟨connected⟩ := by
  obtain ⟨one, sends, named, fresh, -⟩ := start_joins isNamed (by rw [publishes]; nofun) first
  obtain ⟨two, listens, -, joined, others⟩ := start_joins named (by rw [subscribes]; nofun) second
  rw [publishes] at fresh
  rw [subscribes] at joined
  let wiring : Wiring :=
    { sender := sender
      publishing := Network.freshSocket one .publisher publisher.endpoint
      receiver := receiver
      subscribed := Network.freshSocket two .subscriber listener.endpoint
      publishes := rfl
      mayPublish := rfl
      between := rfl
      subscribes := rfl
      mayReceive := rfl
      isLocal := isLocal
      samePort := samePort }
  exact ⟨rfl, wiring, sends, listens, others sender _ fresh, joined⟩

/-- How the messages that a run of calls has read relate to the messages that were published. -/
structure IsOrdered (subscriber : Subscriber) (calls : List AiringCall)
    (returns : List AiringReturn) (after : Airing) : Prop where
  succeeds : ∀ made ∈ returns, made.isSuccess = true
  /-- Read messages and then those that wait are published ones, in their order. -/
  inOrder : (AiringReturn.payloads returns ++ after.waiting subscriber).Sublist after.published
  /-- Only a call for the newest message skips any. -/
  complete : (∀ timeout, .receiveLatest timeout ∉ calls) →
    AiringReturn.payloads returns ++ after.waiting subscriber = after.published
  /-- What the next call returns and leaves, whichever it is. -/
  next : ∀ call : AiringCall, ∃ arrived,
    (call.perform subscriber after).2.published = after.published ++ arrived ∧
      ComesTo (after.waiting subscriber) arrived call (call.perform subscriber after).1
        ((call.perform subscriber after).2.waiting subscriber)
  /-- After a call for the newest message nothing is read until something is published. -/
  silent : ∀ timeout later returned last,
    AiringCall.run subscriber later
        ((AiringCall.receiveLatest timeout).perform subscriber after).2 = (returned, last) →
      last.published =
          ((AiringCall.receiveLatest timeout).perform subscriber after).2.published →
        ∀ made ∈ returned, made = .read (.ok none)

/--
However calls on a publisher and on a connected subscriber follow one another,
and whatever is published in the middle of one, the subscriber reads the
stream in order and nothing of it twice; all of it, unless it asked for the
newest message only.
-/
theorem stream_is_ordered (begins : begun.Begins subscriber) {calls : List AiringCall}
    {returns : List AiringReturn} (ran : AiringCall.run subscriber calls begun = (returns, after)) :
    IsOrdered subscriber calls returns after := by
  obtain ⟨fresh, wiring, onAir⟩ := begins
  obtain ⟨arrived, left, last, published, succeeds, inOrder, complete⟩ := onAir.run calls
  rw [ran] at last published succeeds inOrder complete
  rw [fresh, List.nil_append] at published
  rw [List.nil_append, ← published] at inOrder complete
  refine ⟨succeeds, ?_, ?_, fun call => ?_, ?_⟩
  · rwa [last.waiting_eq]
  · rwa [last.waiting_eq]
  · obtain ⟨more, rest, again, publishedLater, comes⟩ := last.perform call
    refine ⟨more, publishedLater, ?_⟩
    rwa [last.waiting_eq, again.waiting_eq]
  · intro timeout later returned final ranLater nothing
    obtain ⟨more, rest, again, -, comes⟩ := last.perform (.receiveLatest timeout)
    cases comes.empties
    have silent := again.run_silent later
    rw [ranLater] at silent
    exact silent nothing

end Airing

/-! ## News during a call -/

namespace LateNews

def publisher : Lifecycle :=
  { role := .publisher, endpoint := ⟨"localhost", 7111⟩ }

def listener : Lifecycle :=
  { role := .subscriber, endpoint := ⟨"localhost", 7111⟩ }

def opened : Except LinkError SocketId × Lifecycle × Network :=
  publisher.start Network.fabric {}

def connected : Except LinkError SocketId × Lifecycle × Network :=
  listener.start Network.fabric opened.2.2

/-- The fourth operation of the subscriber is the third read of a call for the newest message. -/
def begun : Airing :=
  { network := connected.2.2, publisher := ⟨opened.2.1⟩,
    script := [[], [], [], ["late".toUTF8]] }

def subscriber : Subscriber :=
  ⟨connected.2.1⟩

/-- Three messages are published; then the oldest and the newest are read, and nothing is left. -/
def calls : List AiringCall :=
  [.publish "first".toUTF8, .publish "second".toUTF8, .publish "third".toUTF8, .receive none,
    .receiveLatest none, .receive (some (.ofMillis 10))]

theorem begins : begun.Begins subscriber := by
  have isNamed : ({} : Network).IsNamed := by
    rintro key ⟨⟩
  have first : publisher.start Network.fabric {} = (.ok ⟨0⟩, opened.2.1, opened.2.2) := rfl
  have second : listener.start Network.fabric opened.2.2 =
      (.ok ⟨1⟩, connected.2.1, connected.2.2) := rfl
  have isLocal : listener.endpoint.isLocal = true := by decide +kernel
  exact Airing.begins_of_start first second isNamed rfl rfl isLocal rfl begun.script

def read : List (Option String) :=
  [none, none, none, some "first", some "late", none]

theorem reads :
    (AiringCall.run subscriber calls begun).1.map (fun made => made.payload?.map decodeLenient) =
      read := by
  decide +kernel

end LateNews

open LateNews in
/-- What is published while the newest message is looked for is the newest message. -/
theorem Airing.stream_is_ordered_with_late_news :
    begun.Begins subscriber ∧
      ∃ returns after, AiringCall.run subscriber calls begun = (returns, after) ∧
        returns.map (fun made => made.payload?.map decodeLenient) = read ∧
        IsOrdered subscriber calls returns after :=
  ⟨begins, _, _, rfl, reads, stream_is_ordered begins rfl⟩

end TaskLink
