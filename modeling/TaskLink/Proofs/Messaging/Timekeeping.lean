import TaskLink.Proofs.Messaging.Ownership
import TaskLink.Proofs.Messaging.ServerRuns
import TaskLink.Scenario.Stage

/-!
# Time that passes

The clock of a fabric goes on whatever is done, and a poll that finds nothing
has lasted its wait.  This is so of a network, and so whatever is put together
from its operations never turns the clock back.
-/

namespace TaskLink

/-! ## What is relied on -/

namespace Fabric

variable {σ α : Type}

def GoesOn (fabric : Fabric σ) (operation : σ → α × σ) : Prop :=
  ∀ s, fabric.clock s ≤ fabric.clock (operation s).2

/--
What is relied on about time: no operation turns the clock back, a poll that
finds nothing has lasted its wait, and what a poll announces can be read.
-/
structure KeepsTime (fabric : Fabric σ) : Prop where
  created : fabric.GoesOn fabric.newContext
  opened : ∀ context role endpoint options,
    fabric.GoesOn (fabric.openSocket context role endpoint options)
  closed : ∀ socket s, fabric.clock s ≤ fabric.clock (fabric.closeSocket socket s)
  sent : ∀ socket frame more, fabric.GoesOn (fabric.send socket frame more)
  received : ∀ socket, fabric.GoesOn (fabric.receive socket)
  polled : ∀ socket readiness wait, fabric.GoesOn (fabric.poll socket readiness wait)
  lasts : ∀ socket readiness count s,
    (fabric.poll socket readiness (.millis count) s).1 = .ok false →
      fabric.clock s + count * nanosPerMilli ≤
        fabric.clock (fabric.poll socket readiness (.millis count) s).2
  announced : ∀ socket wait s, (fabric.poll socket .readable wait s).1 = .ok true →
    (fabric.receiveFrames socket (fabric.poll socket .readable wait s).2).1 ≠ .error .wouldBlock

end Fabric

/-! ## What is put together -/

namespace Fabric.KeepsTime

variable {σ : Type} {fabric : Fabric σ}

theorem sendFrames (keeps : fabric.KeepsTime) (socket : SocketId) (frames : List ByteArray) :
    fabric.GoesOn (fabric.sendFrames socket frames) := by
  induction frames with
  | nil => exact fun s => Nat.le_refl _
  | cons frame rest ih =>
      intro s
      have sent := keeps.sent socket frame (!rest.isEmpty) s
      rw [Fabric.sendFrames]
      generalize fabric.send socket frame (!rest.isEmpty) s = sending at sent ⊢
      obtain ⟨result, after⟩ := sending
      cases result with
      | error fault => exact sent
      | ok _ => exact Nat.le_trans sent (ih after)

theorem collectFollowing (keeps : fabric.KeepsTime) (socket : SocketId) (count : Nat)
    (frames : List ByteArray) : fabric.GoesOn (fabric.collectFollowing socket count frames) := by
  induction count generalizing frames with
  | zero => exact fun s => Nat.le_refl _
  | succ count ih =>
      intro s
      have received := keeps.received socket s
      rw [Fabric.collectFollowing]
      generalize fabric.receive socket s = receiving at received ⊢
      obtain ⟨result, after⟩ := receiving
      cases result with
      | error fault => exact received
      | ok frame => exact Nat.le_trans received (ih _ after)

theorem receiveFrames (keeps : fabric.KeepsTime) (socket : SocketId) :
    fabric.GoesOn (fabric.receiveFrames socket) := by
  intro s
  have received := keeps.received socket s
  rw [Fabric.receiveFrames]
  generalize fabric.receive socket s = receiving at received ⊢
  obtain ⟨result, after⟩ := receiving
  cases result with
  | error fault => exact received
  | ok frame => exact Nat.le_trans received (keeps.collectFollowing socket _ _ after)

theorem pollReadable (keeps : fabric.KeepsTime) (socket : SocketId) (wait : Wait) :
    fabric.GoesOn (fabric.pollReadable socket wait) := by
  intro s
  have polled := keeps.polled socket .readable wait s
  unfold Fabric.pollReadable
  split
  · next isPolled => rwa [isPolled] at polled
  · exact polled

theorem readWithin (keeps : fabric.KeepsTime) (timeout : Option Duration) (socket : SocketId) :
    fabric.GoesOn (fabric.readWithin fabric.receiveFrames timeout socket) := by
  have readNow : fabric.GoesOn (fabric.readWithin fabric.receiveFrames none socket) := by
    intro s
    have read := keeps.receiveFrames socket s
    rw [Fabric.readWithin]
    dsimp only
    split <;> next isRead => rwa [isRead] at read
  cases timeout with
  | none => exact readNow
  | some wait =>
      intro s
      have polled := keeps.pollReadable socket (.lasting wait) s
      rw [Fabric.readWithin]
      dsimp only
      generalize fabric.pollReadable socket (.lasting wait) s = found at polled ⊢
      obtain ⟨result, after⟩ := found
      cases result with
      | error fault => exact polled
      | ok isReady =>
          cases isReady with
          | false => exact polled
          | true => exact Nat.le_trans polled (readNow after)

theorem keepsClock (keeps : fabric.KeepsTime) (role : SocketRole) (endpoint : Endpoint)
    (options : SocketOptions) (start : Nat) :
    fabric.Keeps role endpoint options fun _ s => start ≤ fabric.clock s where
  closed socket s since := Nat.le_trans since (keeps.closed socket s)
  created held s since := Nat.le_trans since (keeps.created s)
  opened context s since := by
    have opened := Nat.le_trans since (keeps.opened context role endpoint options s)
    split <;> next isOpened => rwa [isOpened] at opened

theorem renew (keeps : fabric.KeepsTime) (lifecycle : Lifecycle) (s : σ) :
    fabric.clock s ≤ fabric.clock (lifecycle.renew fabric s).2.2 :=
  (Lifecycle.renew_keeps
    (keeps.keepsClock lifecycle.role lifecycle.endpoint lifecycle.options (fabric.clock s))
    ⟨⟨rfl, rfl, rfl⟩, Nat.le_refl _⟩).2

theorem recover (keeps : fabric.KeepsTime) (lifecycle : Lifecycle) :
    fabric.GoesOn (lifecycle.recover fabric) := by
  intro s
  have renewed := keeps.renew (lifecycle.info "Re-creating zmq socket") s
  unfold Lifecycle.recover
  split <;> next isRenewed => rwa [isRenewed] at renewed

end Fabric.KeepsTime

/-! ## Servers -/

namespace Lifecycle

variable {σ α : Type} {fabric : Fabric σ} {use : SocketId → σ → Except SocketFault α × σ}

theorem receiving_goesOn (lifecycle : Lifecycle) (goesOn : ∀ socket, fabric.GoesOn (use socket)) :
    fabric.GoesOn (lifecycle.receiving use) := by
  intro s
  unfold receiving
  cases lifecycle.live with
  | error error => exact Nat.le_refl _
  | ok socket =>
      have used := goesOn socket s
      dsimp only
      split <;> next isUsed => rwa [isUsed] at used

theorem sending_goesOn (lifecycle : Lifecycle) (goesOn : ∀ socket, fabric.GoesOn (use socket)) :
    fabric.GoesOn (lifecycle.sending use) := by
  intro s
  unfold sending
  cases lifecycle.live with
  | error error => exact Nat.le_refl _
  | ok socket =>
      have used := goesOn socket s
      dsimp only
      split <;> next isUsed => rwa [isUsed] at used

end Lifecycle

namespace Responder

variable {σ : Type} {fabric : Fabric σ}

theorem receiveFrames_goesOn (keeps : fabric.KeepsTime) (server : Responder)
    (timeout : Option Duration) : fabric.GoesOn (server.receiveFrames fabric timeout) :=
  server.lifecycle.receiving_goesOn (keeps.readWithin timeout)

theorem receive_goesOn (keeps : fabric.KeepsTime) (server : Responder)
    (timeout : Option Duration) : fabric.GoesOn (server.receive fabric timeout) := by
  intro s
  rw [server.receive_eq]
  exact server.receiveFrames_goesOn keeps timeout s

theorem send_goesOn (keeps : fabric.KeepsTime) (server : Responder) (reply : ByteArray) :
    fabric.GoesOn (server.send fabric reply) :=
  server.lifecycle.sending_goesOn fun socket => keeps.sent socket reply false

theorem sendFrames_goesOn (keeps : fabric.KeepsTime) (server : Responder)
    (frames : List ByteArray) : fabric.GoesOn (server.sendFrames fabric frames) := by
  intro s
  unfold sendFrames
  split
  · exact Nat.le_refl _
  · exact server.lifecycle.sending_goesOn (fun socket => keeps.sendFrames socket frames) s

end Responder

/-! ## Networks -/

namespace Network

theorem receiveFrames_of_polled {network after : Network} {id : SocketId} {wait : Wait}
    (polled : network.poll id .readable wait = (.ok true, after)) :
    ∃ frames, (fabric.receiveFrames id after).1 = .ok frames := by
  unfold poll at polled
  split at polled
  · cases polled
  · next ready =>
      cases polled
      unfold isReady at ready
      cases usable : network.usable id with
      | error fault =>
          rw [usable] at ready
          cases ready
      | ok socket =>
          rw [usable] at ready
          have isReady : socket.isReady .readable = true := Except.ok.inj ready
          rw [NetworkSocket.isReady, Bool.and_eq_true, decide_eq_true_iff,
            Bool.not_eq_true'] at isReady
          cases inbox : socket.inbox with
          | nil =>
              rw [inbox] at isReady
              cases isReady.2
          | cons parcel later =>
              have stillUsable : network.tick.usable id = .ok socket := usable
              obtain ⟨after, received, -⟩ := receiveFrames_eq stillUsable isReady.1 inbox
              exact ⟨parcel.frames, congrArg Prod.fst received⟩
  · cases polled

theorem clock_le_send (network : Network) (id : SocketId) (frame : ByteArray) (more : Bool) :
    network.clock ≤ (network.send id frame more).2.clock := by
  cases sending : network.send id frame more with
  | mk result after =>
      cases result with
      | ok _ =>
          rw [clock_of_send sending]
          exact Nat.le_add_right _ _
      | error fault =>
          rcases network.send_cases id frame more with ⟨_, failed⟩ | ⟨socket, peer, usable, turn⟩
          · cases failed.symm.trans sending
            exact Nat.le_refl _
          · cases more with
            | true =>
                obtain ⟨_, sent, -⟩ := send_more usable turn frame
                cases sent.symm.trans sending
            | false =>
                obtain ⟨_, -, sent⟩ := send_last usable turn frame
                cases sent.symm.trans sending

theorem clock_le_receive (network : Network) (id : SocketId) :
    network.clock ≤ (network.receive id).2.clock := by
  unfold receive
  split
  · exact Nat.le_refl _
  · split
    · exact Nat.le_refl _
    · exact Nat.le_refl _
    · exact Nat.le_add_right _ _
    · exact Nat.le_add_right _ _

/-- A poll takes the time of one operation, and if it finds nothing its wait before that. -/
theorem clock_le_poll (network : Network) (id : SocketId) (readiness : Readiness) (wait : Wait) :
    network.clock ≤ (network.poll id readiness wait).2.clock ∧
      ((network.poll id readiness wait).1 = .ok false →
        network.clock + waitNanos wait ≤ (network.poll id readiness wait).2.clock) := by
  unfold poll
  split
  · exact ⟨Nat.le_refl _, nofun⟩
  · exact ⟨Nat.le_add_right _ _, nofun⟩
  · exact ⟨Nat.le_trans (Nat.le_add_right _ _) (Nat.le_add_right _ _),
      fun _ => Nat.le_add_right _ _⟩

theorem keepsTime : fabric.KeepsTime where
  created network := Nat.le_refl _
  opened context role endpoint options network := by
    change network.clock ≤ (network.openSocket context role endpoint options).2.clock
    rcases network.openSocket_cases context role endpoint options with ⟨fault, failed⟩ | opened
    · exact Nat.le_of_eq (congrArg (·.2.clock) failed).symm
    · rw [opened]
      change network.clock ≤ (network.addSocket _ _).clock
      unfold addSocket
      split <;> exact Nat.le_refl _
  closed id network := Nat.le_refl _
  sent id frame more network := network.clock_le_send id frame more
  received id network := network.clock_le_receive id
  polled id readiness wait network := (network.clock_le_poll id readiness wait).1
  lasts id readiness count network := (network.clock_le_poll id readiness (.millis count)).2
  announced id wait network ready := by
    have polled : network.poll id .readable wait =
        (.ok true, (network.poll id .readable wait).2) := Prod.ext ready rfl
    obtain ⟨frames, received⟩ := receiveFrames_of_polled polled
    change (fabric.receiveFrames id (network.poll id .readable wait).2).1 ≠ _
    rw [received]
    exact nofun

end Network

/-! ## Stages -/

namespace Helper

variable (helper : Helper) (network : Network)

theorem clock_le_take : network.clock ≤ (helper.take network).2.clock := by
  unfold take
  split
  · exact helper.server.receiveFrames_goesOn Network.keepsTime (some patience) network
  · exact helper.server.receive_goesOn Network.keepsTime (some patience) network

theorem clock_le_give (reply : HelperReply) :
    network.clock ≤ (helper.give network reply).2.clock := by
  cases reply with
  | whole payload => exact helper.server.send_goesOn Network.keepsTime payload network
  | frames frames => exact helper.server.sendFrames_goesOn Network.keepsTime frames network

theorem clock_le_serveOne (reply : HelperReply) :
    network.clock ≤ (helper.serveOne reply network).2.clock := by
  have taken := helper.clock_le_take network
  have given := helper.clock_le_give (helper.take network).2 reply
  unfold serveOne
  generalize helper.take network = taking at taken given ⊢
  obtain ⟨answer, middle⟩ := taking
  dsimp only at taken given ⊢
  generalize helper.give middle reply = giving at given ⊢
  obtain ⟨result, after⟩ := giving
  cases result <;> exact Nat.le_trans taken given

theorem clock_le_servePrompt (replies : List HelperReply) :
    network.clock ≤ (helper.servePrompt replies network).2.clock := by
  induction replies generalizing helper network with
  | nil => exact Nat.le_refl _
  | cons reply rest ih =>
      rw [servePrompt]
      split
      · exact Nat.le_trans (helper.clock_le_serveOne network reply) (ih _ _)
      · exact Nat.le_refl _

end Helper

namespace Stage

variable (stage : Stage)

theorem clock_le_serve : stage.network.clock ≤ stage.serve.network.clock := by
  unfold serve
  split
  · next helper _ => exact helper.clock_le_servePrompt stage.network helper.replies
  · exact Nat.le_refl _

theorem clock_le_conclude : stage.network.clock ≤ stage.conclude.network.clock := by
  unfold conclude
  split <;> exact Nat.le_refl _

/-- However others act meanwhile, all the time passes unless what is waited for is met. -/
theorem clock_passUntil (met : Stage → Bool) (rounds nanos : Nat) :
    stage.network.clock ≤ (passUntil met rounds nanos stage).network.clock ∧
      (stage.network.clock + nanos ≤ (passUntil met rounds nanos stage).network.clock ∨
        met (passUntil met rounds nanos stage) = true) := by
  induction rounds generalizing stage nanos with
  | zero => exact ⟨Nat.le_add_right _ _, .inl (Nat.le_refl _)⟩
  | succ rounds ih =>
      rw [passUntil]
      split
      · next isMet => exact ⟨Nat.le_refl _, .inr isMet⟩
      · have span : Nat.min nanos roundNanos ≤ nanos := Nat.min_le_left _ _
        have passed : (stage.round (Nat.min nanos roundNanos)).network.clock =
            stage.network.clock + Nat.min nanos roundNanos := rfl
        -- A round takes its share of the time, and leaves the rest to those after it.
        obtain ⟨later, lasted⟩ :=
          ih (stage.round (Nat.min nanos roundNanos)) (nanos - Nat.min nanos roundNanos)
        dsimp only
        exact ⟨by omega, lasted.imp_left fun whole => by omega⟩

theorem clock_wait (met : Stage → Bool) (nanos : Nat) :
    stage.network.clock ≤ (stage.wait met nanos).network.clock ∧
      (stage.network.clock + nanos ≤ (stage.wait met nanos).network.clock ∨
        met (stage.wait met nanos) = true) := by
  unfold wait
  split
  · exact stage.clock_passUntil met _ nanos
  · split
    · next isMet => exact ⟨Nat.le_refl _, .inr isMet⟩
    · exact ⟨Nat.le_add_right _ _, .inl (Nat.le_refl _)⟩

/-- A poll looks at the network when the time has passed, or when the socket has settled. -/
theorem poll_cases (socket : SocketId) (readiness : Readiness) (wait : Wait) :
    ∃ passed : Stage, stage.network.clock ≤ passed.network.clock ∧
      (stage.network.clock + waitNanos wait ≤ passed.network.clock ∨
        passed.isSettled socket readiness = true ∨ wait = .millis 0) ∧
      stage.poll socket readiness wait =
        passed.onNetwork (Network.poll socket readiness (.millis 0)) := by
  have prepared : stage.network.clock ≤ stage.conclude.serve.network.clock :=
    Nat.le_trans stage.clock_le_conclude stage.conclude.clock_le_serve
  unfold poll
  split
  · next settled => exact ⟨stage, Nat.le_refl _, .inr (.inl settled), rfl⟩
  · split
    · next atOnce => exact ⟨_, prepared, .inr (.inr atOnce), rfl⟩
    · obtain ⟨later, lasted⟩ :=
        stage.conclude.serve.clock_wait (isSettled socket readiness) (waitNanos wait)
      refine ⟨_, Nat.le_trans prepared later, ?_, rfl⟩
      rcases lasted with whole | settled
      · exact .inl (Nat.le_trans (Nat.add_le_add_right prepared _) whole)
      · exact .inr (.inl settled)

/-- A poll of a socket that has settled does not find nothing. -/
theorem poll_ne_of_isSettled {socket : SocketId} {readiness : Readiness}
    (settled : stage.isSettled socket readiness = true) (wait : Wait) :
    (stage.network.poll socket readiness wait).1 ≠ .ok false := by
  unfold isSettled at settled
  unfold Network.poll
  split
  · exact nofun
  · exact nofun
  · next unready =>
      rw [unready] at settled
      cases settled

theorem collectFollowing_eq (socket : SocketId) (count : Nat) (frames : List ByteArray) :
    fabric.collectFollowing socket count frames stage =
      stage.onNetwork (Network.fabric.collectFollowing socket count frames) := by
  induction count generalizing stage frames with
  | zero => rfl
  | succ count ih =>
      have received : fabric.receive socket stage =
          stage.onNetwork (Network.fabric.receive socket) := rfl
      unfold onNetwork at received ih ⊢
      rw [Fabric.collectFollowing, Fabric.collectFollowing, received]
      cases Network.fabric.receive socket stage.network with
      | mk result after =>
          cases result with
          | error fault => rfl
          | ok frame => exact ih _ _

/-- A message is read from a stage as it is from its network. -/
theorem receiveFrames_eq (socket : SocketId) :
    fabric.receiveFrames socket stage = stage.onNetwork (Network.fabric.receiveFrames socket) := by
  have received : fabric.receive socket stage = stage.onNetwork (Network.fabric.receive socket) :=
    rfl
  rw [Fabric.receiveFrames, received]
  unfold onNetwork Fabric.receiveFrames
  cases Network.fabric.receive socket stage.network with
  | mk result after =>
      cases result with
      | error fault => rfl
      | ok frame => exact collectFollowing_eq _ socket frame.following [frame.bytes]

theorem keepsTime : fabric.KeepsTime where
  created stage := Network.keepsTime.created stage.network
  opened context role endpoint options stage :=
    Network.keepsTime.opened context role endpoint options stage.network
  closed socket stage := Network.keepsTime.closed socket stage.network
  sent socket frame more stage := Network.keepsTime.sent socket frame more stage.network
  received socket stage := Network.keepsTime.received socket stage.network
  polled socket readiness wait stage := by
    change stage.network.clock ≤ (stage.poll socket readiness wait).2.network.clock
    obtain ⟨passed, later, -, polled⟩ := stage.poll_cases socket readiness wait
    rw [polled]
    exact Nat.le_trans later (Network.keepsTime.polled socket readiness _ passed.network)
  lasts socket readiness count stage nothing := by
    change stage.network.clock + count * nanosPerMilli ≤
      (stage.poll socket readiness (.millis count)).2.network.clock
    obtain ⟨passed, later, lasted, polled⟩ := stage.poll_cases socket readiness (.millis count)
    change (stage.poll socket readiness (.millis count)).1 = _ at nothing
    rw [polled] at nothing ⊢
    have further := Network.keepsTime.polled socket readiness (.millis 0) passed.network
    rcases lasted with whole | settled | atOnce
    · exact Nat.le_trans whole further
    · -- What ended the wait before its time would have been found.
      exact absurd nothing (passed.poll_ne_of_isSettled settled _)
    · cases atOnce
      rw [Nat.zero_mul, Nat.add_zero]
      exact Nat.le_trans later further
  announced socket wait stage ready := by
    change (fabric.receiveFrames socket (stage.poll socket .readable wait).2).1 ≠ _
    obtain ⟨passed, -, -, polled⟩ := stage.poll_cases socket .readable wait
    change (stage.poll socket .readable wait).1 = _ at ready
    rw [polled] at ready ⊢
    rw [receiveFrames_eq]
    exact Network.keepsTime.announced socket (.millis 0) passed.network ready

end Stage

end TaskLink
