import TaskLink.Proofs.Messaging.ServerRuns

/-!
# Messages are read whole

A server, a subscriber and a client that awaits its reply take one message
with each read, never a part of one and never anything of the next.  So what
they have read are the oldest messages in their order.
-/

namespace TaskLink

namespace Inflow

variable {inflow middle after : Inflow} {server : Responder} {socket changed : NetworkSocket}
  {messages : List Parcel}

/-! ## Servers -/

/-- What the next read returns and leaves, by what waits and what comes in meanwhile. -/
def ReadsNext {α : Type} (reads : Option Duration → Inflow → Except LinkError (Option α) × Inflow)
    (read : Parcel → α) (inflow : Inflow) : Prop :=
  ∀ timeout, ∃ messages after,
    reads timeout inflow = (.ok ((inflow.waiting ++ messages).head?.map read), after) ∧
      after.arrived = inflow.arrived ++ messages ∧
      after.waiting = (inflow.waiting ++ messages).tail

/-- A server that owes no reply reads the next request, joined or frame by frame. -/
theorem Serves.readsNext (serves : inflow.Serves server socket) (ready : socket.owes = false) :
    ReadsNext (server.receiveFrames fabric) Parcel.frames inflow ∧
      ReadsNext (server.receive fabric) Parcel.payload inflow := by
  have apart : ReadsNext (server.receiveFrames fabric) Parcel.frames inflow := by
    intro timeout
    obtain ⟨messages, after, read, comes⟩ :=
      serves.receiveFrames_eq (NetworkSocket.owes_eq_false_iff.mp ready) timeout
    refine ⟨messages, after, ?_, comes.arrived, ?_⟩
    · rw [serves.holds.waiting_eq, read]
    · rw [serves.holds.waiting_eq, comes.holds.waiting_eq, inbox_afterReading]
  refine ⟨apart, fun timeout => ?_⟩
  obtain ⟨messages, after, read, left⟩ := apart timeout
  refine ⟨messages, after, ?_, left⟩
  rw [server.receive_eq, read]
  cases (inflow.waiting ++ messages).head? <;> rfl

/-! ## Subscribers -/

structure Listens (inflow : Inflow) (subscriber : Subscriber) (socket : NetworkSocket) : Prop where
  listens : subscriber.lifecycle.socket = some inflow.reader
  holds : inflow.Holds socket
  role : socket.role = .subscriber
  turn : socket.turn = .toReceive

def receives (subscriber : Subscriber) :
    List (Option Duration) → Inflow → List (Except LinkError (Option ByteArray)) × Inflow
  | [], inflow => ([], inflow)
  | timeout :: later, inflow =>
      match subscriber.receive fabric timeout inflow with
      | (result, inflow) => (receives subscriber later inflow).map (result :: ·) id

def payloads (results : List (Except LinkError (Option ByteArray))) : List ByteArray :=
  results.filterMap fun result => result.toOption.join

theorem payloads_cons (result : Except LinkError (Option ByteArray))
    (later : List (Except LinkError (Option ByteArray))) :
    payloads (result :: later) = result.toOption.join.toList ++ payloads later := by
  rw [payloads, List.filterMap_cons]
  cases result.toOption.join <;> rfl

namespace Listens

variable {subscriber : Subscriber}

theorem receive_eq (listens : inflow.Listens subscriber socket) (timeout : Option Duration) :
    ∃ messages after,
      subscriber.receive fabric timeout inflow =
          (.ok ((socket.inbox ++ messages).head?.map Parcel.payload), after) ∧
        Comes inflow messages after (afterReading socket (socket.inbox ++ messages)) ∧
        after.Listens subscriber (afterReading socket (socket.inbox ++ messages)) := by
  obtain ⟨messages, after, read, comes⟩ := readWithin_eq listens.holds listens.turn timeout
  refine ⟨messages, after, ?_, comes, ?_⟩
  · unfold Subscriber.receive Lifecycle.receiving Lifecycle.live
    rw [listens.listens]
    dsimp only
    rw [Fabric.readWithin_joined, read]
    cases (socket.inbox ++ messages).head? <;> rfl
  · have unchanged : (afterReading socket (socket.inbox ++ messages)).role = .subscriber ∧
        (afterReading socket (socket.inbox ++ messages)).turn = .toReceive := by
      cases socket.inbox ++ messages with
      | nil => exact ⟨listens.role, listens.turn⟩
      | cons parcel rest =>
          refine ⟨listens.role, ?_⟩
          rw [afterReading, Network.afterMessage, listens.role]
          rfl
    exact ⟨by rw [comes.reader]; exact listens.listens, comes.holds, unchanged.1, unchanged.2⟩

theorem readsNext (listens : inflow.Listens subscriber socket) :
    ReadsNext (subscriber.receive fabric) Parcel.payload inflow := by
  intro timeout
  obtain ⟨messages, after, read, comes, -⟩ := listens.receive_eq timeout
  refine ⟨messages, after, ?_, comes.arrived, ?_⟩
  · rw [listens.holds.waiting_eq, read]
  · rw [listens.holds.waiting_eq, comes.holds.waiting_eq, inbox_afterReading]

/-- A row of reads takes the oldest messages, and none of them fails. -/
theorem receives (listens : inflow.Listens subscriber socket)
    (timeouts : List (Option Duration)) :
    ∃ changed, (receives subscriber timeouts inflow).2.Listens subscriber changed ∧
      (∀ result ∈ (Inflow.receives subscriber timeouts inflow).1, ∃ message, result = .ok message) ∧
      Hands (fun payload parcel => payload = parcel.payload) inflow
        (payloads (Inflow.receives subscriber timeouts inflow).1)
        (Inflow.receives subscriber timeouts inflow).2 := by
  induction timeouts generalizing inflow socket with
  | nil => exact ⟨socket, listens, nofun, .refl inflow⟩
  | cons timeout later ih =>
      obtain ⟨messages, middle, read, comes, again⟩ := listens.receive_eq timeout
      obtain ⟨changed, last, succeeds, hands⟩ := ih again
      have first : Hands (fun payload parcel => payload = parcel.payload) inflow
          ((socket.inbox ++ messages).head?.map Parcel.payload).toList middle :=
        .of_read listens.holds (fun _ => rfl) comes
      rw [Inflow.receives, read]
      refine ⟨changed, last, ?_, ?_⟩
      · intro result member
        rcases List.mem_cons.mp member with rfl | isLater
        · exact ⟨_, rfl⟩
        · exact succeeds result isLater
      · rw [Prod.map_fst, payloads_cons]
        exact first.trans hands

end Listens

/-! ## Replies -/

theorem readReply_eq (holds : inflow.Holds socket) (turn : socket.turn = .toReceive)
    (isReady : socket.inbox ≠ []) (lifecycle : Lifecycle) :
    ∃ messages after reply,
      Requester.readReply fabric inflow.reader lifecycle inflow = (.ok reply, lifecycle, after) ∧
        some reply = (socket.inbox ++ messages).head?.map Parcel.payload ∧
        Comes inflow messages after (afterReading socket (socket.inbox ++ messages)) := by
  obtain ⟨messages, after, read, comes⟩ := receiveFrames_eq holds turn
  obtain ⟨parcel, rest, inbox⟩ := List.exists_cons_of_ne_nil isReady
  have oldest : (socket.inbox ++ messages).head? = some parcel := by rw [inbox]; rfl
  rw [oldest] at read
  refine ⟨messages, after, parcel.payload, ?_, by rw [oldest]; rfl, comes⟩
  rw [Requester.readReply, Fabric.receiveJoined_eq, read]
  rfl

/-- Waiting for a reply reads one message whole if it returns one, and else none. -/
theorem awaitReply_hands {watching : Option (Preempt Inflow)} {interval : Duration} {call : Call}
    {started : Nat} {deadline : Option Deadline} {fuel : Nat} {lifecycle : Lifecycle}
    {done : Except LinkError ByteArray × Lifecycle × Inflow}
    (asks : ∀ s, (Requester.askWatched watching call.bits s).2 = s)
    (holds : inflow.Holds socket) (turn : socket.turn = .toReceive)
    (returned : Requester.awaitReply fabric watching interval call started deadline inflow.reader
      fuel lifecycle inflow = some done) :
    Hands (fun payload parcel => payload = parcel.payload) inflow done.1.toOption.toList
      done.2.2 := by
  induction fuel generalizing inflow socket with
  | zero => cases returned
  | succ fuel ih =>
      rw [Requester.awaitReply] at returned
      have asked := asks inflow
      generalize Requester.askWatched watching call.bits inflow = answer at asked returned
      obtain ⟨isRaised, unchanged⟩ := answer
      have same : unchanged = inflow := asked
      rw [same] at returned
      cases isRaised with
      | true =>
          cases returned
          exact .refl inflow
      | false =>
          dsimp only at returned
          cases length : Requester.nextWait fabric watching.isSome interval deadline inflow with
          | error limit =>
              rw [length] at returned
              cases returned
              exact .refl inflow
          | ok wait =>
              obtain ⟨messages, polled, ready, comes⟩ := pollReadable_eq holds wait
              have nothing : Hands (fun payload parcel => payload = parcel.payload) inflow []
                  polled := .of_nothing holds comes rfl
              rw [length] at returned
              dsimp only at returned
              rw [ready] at returned
              cases isReady : (holding socket messages).isReady .readable with
              | false =>
                  rw [isReady, ← comes.reader] at returned
                  exact nothing.trans (ih comes.holds turn returned)
              | true =>
                  have nonempty : (holding socket messages).inbox ≠ [] := by
                    rintro empty
                    rw [NetworkSocket.isReady, empty] at isReady
                    simp at isReady
                  obtain ⟨more, after, reply, read, isOldest, later⟩ :=
                    readReply_eq comes.holds turn nonempty lifecycle
                  have hands : Hands (fun payload parcel => payload = parcel.payload) polled
                      (((holding socket messages).inbox ++ more).head?.map Parcel.payload).toList
                      after := .of_read comes.holds (fun _ => rfl) later
                  rw [isReady, ← comes.reader] at returned
                  dsimp only at returned
                  rw [read] at returned
                  cases returned
                  rw [← isOldest] at hands
                  exact nothing.trans hands

/-! ## Every reader -/

/--
A server that reads joined reads what it would have read frame by frame, on
any fabric.  Whatever calls are made on a server, a subscriber or a client that
awaits its reply, and whatever comes in meanwhile, each message is read whole
and alone, the oldest first; and it is read if it is there.
-/
theorem messages_are_read_whole :
    (∀ {σ : Type} (fabric : Fabric σ) (server : Responder) (timeout : Option Duration) (s : σ),
      server.receive fabric timeout s =
        ((server.receiveFrames fabric timeout s).1.map (Option.map joinFrames),
          (server.receiveFrames fabric timeout s).2)) ∧
    (∀ (begun after : Inflow) (server : Responder) (socket : NetworkSocket)
      (calls : List ServerCall) (returns : List ServerReturn),
      begun.Serves server socket → ServerCall.run server calls begun = (returns, after) →
        Hands (fun reading parcel => reading.IsOf parcel.frames) begun
          (ServerReturn.readings returns) after ∧
        (ServerReturn.owing socket.owes returns = false →
          ReadsNext (server.receiveFrames fabric) Parcel.frames after ∧
            ReadsNext (server.receive fabric) Parcel.payload after)) ∧
    (∀ (begun after : Inflow) (subscriber : Subscriber) (socket : NetworkSocket)
      (timeouts : List (Option Duration)) (results : List (Except LinkError (Option ByteArray))),
      begun.Listens subscriber socket → receives subscriber timeouts begun = (results, after) →
        (∀ result ∈ results, ∃ message, result = .ok message) ∧
        Hands (fun payload parcel => payload = parcel.payload) begun (payloads results) after ∧
        ReadsNext (subscriber.receive fabric) Parcel.payload after) ∧
    (∀ (begun : Inflow) (socket : NetworkSocket) (lifecycle : Lifecycle),
      begun.Holds socket → socket.turn = .toReceive →
        (begun.waiting ≠ [] → ∃ messages after reply,
          Requester.readReply fabric begun.reader lifecycle begun = (.ok reply, lifecycle, after) ∧
            some reply = (begun.waiting ++ messages).head?.map Parcel.payload ∧
            after.arrived = begun.arrived ++ messages ∧
            after.waiting = (begun.waiting ++ messages).tail) ∧
        ∀ (watching : Option (Preempt Inflow)) (interval : Duration) (call : Call) (started : Nat)
          (deadline : Option Deadline) (fuel : Nat)
          (done : Except LinkError ByteArray × Lifecycle × Inflow),
          (∀ s, (Requester.askWatched watching call.bits s).2 = s) →
          Requester.awaitReply fabric watching interval call started deadline begun.reader fuel
              lifecycle begun = some done →
            Hands (fun payload parcel => payload = parcel.payload) begun done.1.toOption.toList
              done.2.2) := by
  refine ⟨?joined, ?server, ?subscriber, ?client⟩
  case joined => exact fun fabric server timeout s => server.receive_eq fabric timeout s
  case server =>
    intro begun after server socket calls returns serves ran
    obtain ⟨changed, last, owes, hands⟩ := serves.run calls
    rw [ran] at last owes hands
    exact ⟨hands, fun ready => last.readsNext (owes.trans ready)⟩
  case subscriber =>
    intro begun after subscriber socket timeouts results listens read
    obtain ⟨changed, last, succeeds, hands⟩ := listens.receives timeouts
    rw [read] at last succeeds hands
    exact ⟨succeeds, hands, last.readsNext⟩
  case client =>
    intro begun socket lifecycle holds turn
    constructor
    · intro isReady
      rw [holds.waiting_eq] at isReady ⊢
      obtain ⟨messages, after, reply, read, isOldest, comes⟩ :=
        readReply_eq holds turn isReady lifecycle
      refine ⟨messages, after, reply, read, isOldest, comes.arrived, ?_⟩
      rw [comes.holds.waiting_eq, inbox_afterReading]
    · intro watching interval call started deadline fuel done asks returned
      exact awaitReply_hands asks holds turn returned

end Inflow

/-! ## Messages of several frames -/

namespace MixedQueue

open Inflow

def served : Except LinkError SocketId × Lifecycle × Network :=
  Lifecycle.start Network.fabric { role := .responder, endpoint := ⟨"*", 7200⟩ } {}

def plain : Except LinkError SocketId × Lifecycle × Network :=
  Lifecycle.start Network.fabric { role := .requester, endpoint := ⟨"localhost", 7200⟩ } served.2.2

/-- A client of the server that sends three frames, of which the second one is empty. -/
def framed : Except LinkError SocketId × Lifecycle × Network :=
  Lifecycle.start Network.fabric { role := .requester, endpoint := ⟨"localhost", 7200⟩ } plain.2.2

def asked : Network :=
  (Network.fabric.sendFrames ⟨2⟩ ["a".toUTF8, .empty, "b".toUTF8]
    (Network.fabric.send ⟨1⟩ "plain".toUTF8 false framed.2.2).2).2

def begun : Inflow where
  network := asked
  reader := ⟨0⟩
  script := [[], [], [], [], [⟨⟨3⟩, "la".toUTF8, ["te".toUTF8]⟩]]

/-- The server reads and answers, joined and frame by frame, and reads once more. -/
def calls : List ServerCall :=
  [.receive none, .send "one".toUTF8, .receiveFrames (some (.ofMillis 10)),
    .sendFrames ["two".toUTF8, "three".toUTF8], .receive none]

def server : Responder :=
  ⟨served.2.1⟩

def answered : Inflow where
  network := (ServerCall.run server calls begun).2.network
  reader := ⟨2⟩

def listening : Except LinkError SocketId × Lifecycle × Network :=
  Lifecycle.start Network.fabric { role := .subscriber, endpoint := ⟨"localhost", 7201⟩ } {}

def subscriber : Subscriber :=
  ⟨listening.2.1⟩

/-- The second message comes in between the two frames of the first one. -/
def published : Inflow where
  network := listening.2.2
  reader := ⟨0⟩
  script := [[⟨⟨1⟩, "ne".toUTF8, ["ws".toUTF8]⟩], [⟨⟨1⟩, "more".toUTF8, []⟩]]

end MixedQueue

open MixedQueue in
/-- A plain and a framed request, a late one, a reply of two frames, and published messages. -/
theorem Inflow.messages_are_read_whole_one_by_one :
    (∃ returns after, ServerCall.run server calls begun = (returns, after) ∧
      (ServerReturn.readings returns).length = 3 ∧
      Hands (fun reading parcel => reading.IsOf parcel.frames) begun
        (ServerReturn.readings returns) after) ∧
    (∃ results after, receives subscriber [none, none, none] published = (results, after) ∧
      payloads results = ["news".toUTF8, "more".toUTF8] ∧
      Hands (fun payload parcel => payload = parcel.payload) published (payloads results) after) ∧
    ∃ messages after reply,
      Requester.readReply fabric answered.reader framed.2.1 answered =
          (.ok reply, framed.2.1, after) ∧
        some reply = (answered.waiting ++ messages).head?.map Parcel.payload := by
  obtain ⟨-, serverPart, subscriberPart, clientPart⟩ := messages_are_read_whole
  refine ⟨?server, ?subscriber, ?client⟩
  case server =>
    obtain ⟨socket, holds, role, turn, fromOthers⟩ :=
      exists_of_isReadableBy (show begun.isReadableBy .responder = true by decide +kernel)
    have serves : begun.Serves server socket :=
      ⟨by decide +kernel, holds, role, by rw [turn]; nofun, fromOthers⟩
    have three : (ServerReturn.readings (ServerCall.run server calls begun).1).length = 3 := by
      decide +kernel
    exact ⟨_, _, rfl, three, (serverPart begun _ server socket calls _ serves rfl).1⟩
  case subscriber =>
    obtain ⟨socket, holds, role, turn, -⟩ :=
      exists_of_isReadableBy (show published.isReadableBy .subscriber = true by decide +kernel)
    have listens : published.Listens subscriber socket := ⟨by decide +kernel, holds, role, turn⟩
    have both : payloads (receives subscriber [none, none, none] published).1 =
        ["news".toUTF8, "more".toUTF8] := by
      decide +kernel
    have reads := subscriberPart published _ subscriber socket [none, none, none] _ listens rfl
    exact ⟨_, _, rfl, both, reads.2.1⟩
  case client =>
    obtain ⟨socket, holds, role, turn, -⟩ :=
      exists_of_isReadableBy (show answered.isReadableBy .requester = true by decide +kernel)
    have isReady : answered.waiting ≠ [] := by
      have waits : answered.waiting.length = 1 := by decide +kernel
      intro empty
      rw [empty] at waits
      cases waits
    obtain ⟨messages, after, reply, read, isOldest, -⟩ :=
      (clientPart answered socket framed.2.1 holds turn).1 isReady
    exact ⟨messages, after, reply, read, isOldest⟩

end TaskLink
