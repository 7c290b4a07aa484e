import TaskLink.Proofs.Messaging.ServerRuns

/-!
# Owed replies

A server may look for a request without waiting in two ways: it reads at once,
or it polls with no time to wait and reads what the poll has announced.  Both
come to the same as long as it owes no reply.  While it owes one neither reads
anything, but only the first way says so.
-/

namespace TaskLink

/-! ## Up to the time -/

namespace Network

def SameButTime (one other : Network) : Prop :=
  { one with clock := other.clock } = other

/-- What was done came to the same, whatever time it took. -/
def Agree {α : Type} (one other : α × Network) : Prop :=
  one.1 = other.1 ∧ one.2.SameButTime other.2

def IsTimeless {α : Type} (read : Network → α × Network) : Prop :=
  ∀ one other, one.SameButTime other → Agree (read one) (read other)

variable {one other network : Network} {id : SocketId}

theorem SameButTime.refl (network : Network) : network.SameButTime network :=
  rfl

theorem Agree.refl {α : Type} (outcome : α × Network) : Agree outcome outcome :=
  ⟨rfl, .refl outcome.2⟩

/-- What is made of a value does not tell the outcomes apart. -/
theorem Agree.map {α β : Type} {first second : α × Network} (agree : Agree first second)
    (change : α → β) : Agree (change first.1, first.2) (change second.1, second.2) :=
  ⟨congrArg change agree.1, agree.2⟩

theorem isTimeless_receive (id : SocketId) : IsTimeless (fabric.receive id) := by
  intro one other same
  have isSame : other = { one with clock := other.clock } := same.symm
  have usable : Network.usable { one with clock := other.clock } id = one.usable id := rfl
  change Agree (one.receive id) (other.receive id)
  rw [isSame]
  unfold receive
  rw [usable]
  cases one.usable id with
  | error fault => exact ⟨rfl, rfl⟩
  | ok socket =>
      dsimp only
      split <;> exact ⟨rfl, rfl⟩

theorem isTimeless_collectFollowing (id : SocketId) (count : Nat) (frames : List ByteArray) :
    IsTimeless (fabric.collectFollowing id count frames) := by
  induction count generalizing frames with
  | zero => exact fun one other same => ⟨rfl, same⟩
  | succ count ih =>
      intro one other same
      obtain ⟨result, left⟩ := isTimeless_receive id one other same
      rw [Fabric.collectFollowing, Fabric.collectFollowing]
      generalize fabric.receive id one = first at result left ⊢
      generalize fabric.receive id other = second at result left ⊢
      obtain ⟨found, after⟩ := first
      obtain ⟨found', after'⟩ := second
      cases result
      cases found with
      | error fault => exact ⟨rfl, left⟩
      | ok frame => exact ih (frames ++ [frame.bytes]) after after' left

theorem isTimeless_receiveFrames (id : SocketId) : IsTimeless (fabric.receiveFrames id) := by
  intro one other same
  obtain ⟨result, left⟩ := isTimeless_receive id one other same
  rw [Fabric.receiveFrames, Fabric.receiveFrames]
  generalize fabric.receive id one = first at result left ⊢
  generalize fabric.receive id other = second at result left ⊢
  obtain ⟨found, after⟩ := first
  obtain ⟨found', after'⟩ := second
  cases result
  cases found with
  | error fault => exact ⟨rfl, left⟩
  | ok frame => exact isTimeless_collectFollowing id frame.following [frame.bytes] after after' left

/-! ## No wait and no time to wait -/

/-- What cannot be used is gone, or its context is. -/
theorem usable_fault {fault : SocketFault} (unusable : network.usable id = .error fault) :
    fault = .notSupported ∨ fault = .contextTerminated := by
  unfold usable at unusable
  split at unusable
  · cases unusable
    exact .inl rfl
  · split at unusable
    · cases unusable
      exact .inr rfl
    · cases unusable

theorem receive_of_unusable {fault : SocketFault} (unusable : network.usable id = .error fault) :
    fabric.receiveFrames id network = (.error fault, network) := by
  have received : fabric.receive id network = (.error fault, network) := by
    change network.receive id = _
    rw [receive, unusable]
  rw [Fabric.receiveFrames, received]

theorem pollReadable_of_unusable {fault : SocketFault}
    (unusable : network.usable id = .error fault) (wait : Wait) :
    fabric.pollReadable id wait network = (.error fault, network) := by
  have polled : fabric.poll id .readable wait network = (.error fault, network) := by
    change network.poll id .readable wait = _
    rw [poll, isReady, unusable]
    rfl
  rw [Fabric.pollReadable, polled]
  obtain rfl | rfl := usable_fault unusable <;> rfl

theorem pollReadable_of_usable {socket : NetworkSocket} (usable : network.usable id = .ok socket)
    (wait : Wait) :
    (fabric.pollReadable id wait network).1 = .ok (socket.isReady .readable) ∧
      network.SameButTime (fabric.pollReadable id wait network).2 := by
  have ready : network.isReady id .readable = .ok (socket.isReady .readable) := by
    rw [isReady, usable]
    rfl
  have polled : fabric.poll id .readable wait network = network.poll id .readable wait := rfl
  rw [Fabric.pollReadable, polled, poll, ready]
  cases socket.isReady .readable <;> exact ⟨rfl, rfl⟩

/-- As long as a socket does not have to send, no wait and no time to wait are the same. -/
theorem readWithin_zero (idle : ∀ socket, network.usable id = .ok socket → socket.owes = false) :
    Agree (fabric.readWithin fabric.receiveFrames none id network)
      (fabric.readWithin fabric.receiveFrames (some .zero) id network) := by
  unfold Fabric.readWithin
  dsimp only
  cases usable : network.usable id with
  | error fault =>
      rw [receive_of_unusable usable, pollReadable_of_unusable usable]
      obtain rfl | rfl := usable_fault usable <;> exact .refl _
  | ok socket =>
      obtain ⟨ready, same⟩ := pollReadable_of_usable usable (.lasting .zero)
      have turn := NetworkSocket.owes_eq_false_iff.mp (idle socket usable)
      generalize fabric.pollReadable id (.lasting .zero) network = polled at ready same ⊢
      obtain ⟨found, after⟩ := polled
      cases ready
      cases inbox : socket.inbox with
      | nil =>
          have received : fabric.receiveFrames id network = (.error .wouldBlock, network) := by
            have blocked : fabric.receive id network = (.error .wouldBlock, network) :=
              receive_empty usable turn inbox
            rw [Fabric.receiveFrames, blocked]
          have isReady : socket.isReady .readable = false := by
            simp [NetworkSocket.isReady, inbox]
          rw [received, isReady]
          exact ⟨rfl, same⟩
      | cons parcel later =>
          have isReady : socket.isReady .readable = true := by
            simp [NetworkSocket.isReady, inbox, turn]
          rw [isReady]
          obtain ⟨result, left⟩ := isTimeless_receiveFrames id network after same
          dsimp only
          generalize fabric.receiveFrames id network = first at result left ⊢
          generalize fabric.receiveFrames id after = second at result left ⊢
          obtain ⟨value, last⟩ := first
          obtain ⟨value', last'⟩ := second
          cases result
          cases value with
          | ok frames => exact ⟨rfl, left⟩
          | error fault => cases fault <;> exact ⟨rfl, left⟩

/-- A socket that has to send is not read; without a wait that is told. -/
theorem readWithin_owing {socket : NetworkSocket} (usable : network.usable id = .ok socket)
    (owes : socket.owes = true) :
    fabric.readWithin fabric.receiveFrames none id network =
        (.error (outOfTurn socket.role), network) ∧
      ∀ wait, (fabric.readWithin fabric.receiveFrames (some wait) id network).1 = .ok none ∧
        network.SameButTime (fabric.readWithin fabric.receiveFrames (some wait) id network).2 := by
  obtain ⟨peer, turn⟩ := NetworkSocket.exists_peer_of_owes owes
  unfold Fabric.readWithin
  dsimp only
  constructor
  · have refused : fabric.receive id network = (.error (outOfTurn socket.role), network) :=
      receive_out_of_turn usable turn
    rw [Fabric.receiveFrames, refused]
    cases socket.role <;> rfl
  · intro wait
    obtain ⟨ready, same⟩ := pollReadable_of_usable usable (.lasting wait)
    have isReady : socket.isReady .readable = false := by
      simp [NetworkSocket.isReady, turn]
    rw [isReady] at ready
    generalize fabric.pollReadable id (.lasting wait) network = polled at ready same ⊢
    obtain ⟨found, after⟩ := polled
    cases ready
    exact ⟨rfl, same⟩

end Network

/-! ## Servers -/

namespace Responder

open Network

variable {server : Responder} {network : Network} {id : SocketId} {socket : NetworkSocket}

def Owes (server : Responder) (network : Network) : Prop :=
  ∃ id socket, server.lifecycle.socket = some id ∧ network.usable id = .ok socket ∧
    socket.owes = true

def IsServer (server : Responder) (network : Network) : Prop :=
  ∀ id socket, server.lifecycle.socket = some id → network.usable id = .ok socket →
    socket.role = .responder

/-- Reading without a wait comes to the same as reading with no time to wait. -/
structure ReadsAlike (server : Responder) (network : Network) : Prop where
  joined : Agree (server.receive fabric none network) (server.receive fabric (some .zero) network)
  apart : Agree (server.receiveFrames fabric none network)
    (server.receiveFrames fabric (some .zero) network)

def outOfTurnError : LinkError :=
  .receiveFailed SocketFault.wrongState.message

/-- Reading without a wait is refused, and any time to wait passes for nothing. -/
structure ReadsApart (server : Responder) (network : Network) : Prop where
  refusesJoined : server.receive fabric none network = (.error outOfTurnError, network)
  refusesApart : server.receiveFrames fabric none network = (.error outOfTurnError, network)
  waitsJoined : ∀ wait, Agree (.ok none, network) (server.receive fabric (some wait) network)
  waitsApart : ∀ wait, Agree (.ok none, network) (server.receiveFrames fabric (some wait) network)

/-- A server's reading is its socket's, with what is refused as an error of the link. -/
theorem receiveFrames_of_live (listens : server.lifecycle.socket = some id)
    (timeout : Option Duration) {outcome : Except SocketFault (Option (List ByteArray)) × Network}
    (reads : fabric.readWithin fabric.receiveFrames timeout id network = outcome) :
    server.receiveFrames fabric timeout network =
      (outcome.1.mapError fun fault => .receiveFailed fault.message, outcome.2) := by
  unfold receiveFrames Lifecycle.receiving Lifecycle.live
  rw [listens]
  dsimp only
  rw [reads]
  obtain ⟨result, after⟩ := outcome
  cases result <;> rfl

theorem readsAlike (idle : ¬ server.Owes network) : server.ReadsAlike network := by
  have apart : Agree (server.receiveFrames fabric none network)
      (server.receiveFrames fabric (some .zero) network) := by
    cases listens : server.lifecycle.socket with
    | none =>
        unfold receiveFrames Lifecycle.receiving Lifecycle.live
        rw [listens]
        exact .refl _
    | some id =>
        rw [receiveFrames_of_live listens none rfl, receiveFrames_of_live listens (some .zero) rfl]
        refine (readWithin_zero fun socket usable => ?_).map _
        exact Bool.eq_false_iff.mpr fun owes => idle ⟨id, socket, listens, usable, owes⟩
  refine ⟨?_, apart⟩
  rw [server.receive_eq, server.receive_eq]
  exact apart.map _

theorem readsApart (isServer : server.IsServer network) (owes : server.Owes network) :
    server.ReadsApart network := by
  obtain ⟨id, socket, listens, usable, owes⟩ := owes
  obtain ⟨refused, waits⟩ := readWithin_owing usable owes
  have refusesApart : server.receiveFrames fabric none network =
      (.error outOfTurnError, network) := by
    rw [receiveFrames_of_live listens none refused, isServer id socket listens usable]
    rfl
  have waitsApart (wait : Duration) :
      Agree (.ok none, network) (server.receiveFrames fabric (some wait) network) := by
    obtain ⟨nothing, same⟩ := waits wait
    rw [receiveFrames_of_live listens (some wait) rfl, nothing]
    exact ⟨rfl, same⟩
  refine ⟨?_, refusesApart, fun wait => ?_, waitsApart⟩
  · rw [server.receive_eq, refusesApart]
    rfl
  · rw [server.receive_eq]
    exact (waitsApart wait).map (Except.map (Option.map joinFrames))

theorem owes_iff_of_serves {inflow : Inflow} (serves : inflow.Serves server socket) :
    server.Owes inflow.network ↔ socket.owes = true := by
  constructor
  · rintro ⟨id, other, listens, usable, owes⟩
    cases serves.listens.symm.trans listens
    cases serves.holds.symm.trans usable
    exact owes
  · exact fun owes => ⟨inflow.reader, socket, serves.listens, serves.holds, owes⟩

theorem isServer_of_serves {inflow : Inflow} (serves : inflow.Serves server socket) :
    server.IsServer inflow.network := by
  intro id other listens usable
  cases serves.listens.symm.trans listens
  cases serves.holds.symm.trans usable
  exact serves.role

/--
As long as a server owes no reply, reading without a wait and reading with no
time to wait return the same and leave the same.  While it owes one, both leave
everything as it was, and only the first is refused.  Which of the two holds
after a run of calls is told by the last of them that read or answered a
request, whatever failed in between.
-/
theorem waits_agree_unless_owing :
    (∀ (server : Responder) (network : Network), ¬ server.Owes network →
      server.ReadsAlike network) ∧
    (∀ (server : Responder) (network : Network), server.IsServer network → server.Owes network →
      server.ReadsApart network) ∧
    (∀ (begun after : Inflow) (server : Responder) (socket : NetworkSocket)
      (calls : List ServerCall) (returns : List ServerReturn),
      begun.Serves server socket → ServerCall.run server calls begun = (returns, after) →
        (ServerReturn.owing socket.owes returns = false → server.ReadsAlike after.network) ∧
        (ServerReturn.owing socket.owes returns = true → server.ReadsApart after.network)) := by
  refine ⟨fun server network => readsAlike, fun server network => readsApart, ?_⟩
  intro begun after server socket calls returns serves ran
  obtain ⟨changed, last, owes, -⟩ := serves.run calls
  rw [ran] at last owes
  rw [← owes]
  constructor
  · intro isSettled
    refine readsAlike fun isOwing => ?_
    rw [(owes_iff_of_serves last).mp isOwing] at isSettled
    cases isSettled
  · intro isOwing
    exact readsApart (isServer_of_serves last) ((owes_iff_of_serves last).mpr isOwing)

end Responder

/-! ## A reply that is owed -/

namespace PendingReply

open Network

def served : Except LinkError SocketId × Lifecycle × Network :=
  Lifecycle.start fabric { role := .responder, endpoint := ⟨"*", 7300⟩ } {}

def asking : Except LinkError SocketId × Lifecycle × Network :=
  Lifecycle.start fabric { role := .requester, endpoint := ⟨"localhost", 7300⟩ } served.2.2

def server : Responder :=
  ⟨served.2.1⟩

def begun : Inflow where
  network := (fabric.send ⟨1⟩ "first".toUTF8 false asking.2.2).2
  reader := ⟨0⟩

def taken : List ServerReturn × Inflow :=
  ServerCall.run server [.receive none] begun

def answered : List ServerReturn × Inflow :=
  ServerCall.run server [.receive none, .send "reply".toUTF8, .send "again".toUTF8] begun

theorem serves : ∃ socket, begun.Serves server socket ∧ socket.owes = false := by
  obtain ⟨socket, holds, role, turn, fromOthers⟩ :=
    Inflow.exists_of_isReadableBy
      (show begun.isReadableBy .responder = true by decide +kernel)
  exact ⟨socket, ⟨by decide +kernel, holds, role, by rw [turn]; nofun, fromOthers⟩,
    NetworkSocket.owes_eq_false_iff.mpr turn⟩

end PendingReply

open Network PendingReply in
/-- Before the request was taken, while it waits for its answer, and after that. -/
theorem Responder.waits_agree_unless_owing_a_first_reply :
    (¬ server.Owes begun.network ∧ server.ReadsAlike begun.network) ∧
    (server.IsServer taken.2.network ∧ server.Owes taken.2.network ∧
      server.ReadsApart taken.2.network) ∧
    ServerReturn.owing false answered.1 = false ∧ server.ReadsAlike answered.2.network := by
  obtain ⟨socket, serves, idle⟩ := PendingReply.serves
  obtain ⟨alike, apart, runs⟩ := waits_agree_unless_owing
  have notOwing : ¬ server.Owes begun.network := by
    rw [owes_iff_of_serves serves, idle]
    nofun
  obtain ⟨changed, stillServes, owes, -⟩ := serves.run [.receive none]
  have takes : ServerReturn.owing false taken.1 = true := by decide +kernel
  have owesReply : server.Owes taken.2.network := by
    refine (owes_iff_of_serves stillServes).mpr ?_
    rw [owes, idle]
    exact takes
  have settles : ServerReturn.owing false answered.1 = false := by decide +kernel
  have settled := (runs begun answered.2 server socket _ answered.1 serves rfl).1
  rw [idle] at settled
  have isServer := isServer_of_serves stillServes
  exact ⟨⟨notOwing, alike server begun.network notOwing⟩,
    ⟨isServer, owesReply, apart server taken.2.network isServer owesReply⟩, settles,
    settled settles⟩

open Network PendingReply in
/-- While a reply is owed, reading without a wait and reading with no time to wait differ. -/
theorem Responder.owed_reply_tells_waits_apart :
    ServerReturn.owing false taken.1 = true ∧
      (server.receive fabric none taken.2.network).1 ≠
        (server.receive fabric (some .zero) taken.2.network).1 ∧
      (server.receiveFrames fabric none taken.2.network).1 ≠
        (server.receiveFrames fabric (some .zero) taken.2.network).1 := by
  decide +kernel

end TaskLink
