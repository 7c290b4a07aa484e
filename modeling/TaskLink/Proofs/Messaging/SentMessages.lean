import TaskLink.Messaging.Requester
import TaskLink.Messaging.Subscriber
import TaskLink.Proofs.Messaging.Ownership

/-!
# Messages that are sent

A tap notes every frame that the fabric takes over for sending, and changes
nothing else.  Opening, closing and receiving leave no note.  A call leaves
one note of its request, or none if it failed before it was taken over.
-/

namespace TaskLink

/-! ## The tap -/

/-- Surroundings with the frames that were taken over for sending, the oldest first. -/
structure Tapped (σ : Type) where
  surroundings : σ
  sent : List ByteArray := []

namespace Tapped

variable {σ α : Type}

def through (operation : σ → α × σ) (s : Tapped σ) : α × Tapped σ :=
  match operation s.surroundings with
  | (value, surroundings) => (value, { s with surroundings := surroundings })

end Tapped

namespace Fabric

variable {σ : Type}

def tapping (base : Fabric σ) : Fabric (Tapped σ) where
  newContext := Tapped.through base.newContext
  openSocket context role endpoint options :=
    Tapped.through (base.openSocket context role endpoint options)
  closeSocket socket s := { s with surroundings := base.closeSocket socket s.surroundings }
  send socket frame more s :=
    match base.send socket frame more s.surroundings with
    | (.ok (), surroundings) => (.ok (), ⟨surroundings, s.sent ++ [frame]⟩)
    | (.error fault, surroundings) => (.error fault, ⟨surroundings, s.sent⟩)
  receive socket := Tapped.through (base.receive socket)
  poll socket readiness wait := Tapped.through (base.poll socket readiness wait)
  backlog socket s := base.backlog socket s.surroundings
  clock s := base.clock s.surroundings
  sleep span s := { s with surroundings := base.sleep span s.surroundings }

variable (base : Fabric σ)

/-! ## What sends nothing -/

theorem receive_sent (socket : SocketId) (s : Tapped σ) :
    (base.tapping.receive socket s).2.sent = s.sent :=
  rfl

theorem joinFollowing_sent (socket : SocketId) (count : Nat) (payload : ByteArray)
    (s : Tapped σ) : (base.tapping.joinFollowing socket count payload s).2.sent = s.sent := by
  induction count generalizing payload s with
  | zero => rfl
  | succ count ih =>
      have read := base.receive_sent socket s
      rw [joinFollowing]
      generalize base.tapping.receive socket s = received at read ⊢
      obtain ⟨result, after⟩ := received
      cases result with
      | error fault => exact read
      | ok frame => exact (ih _ after).trans read

theorem receiveJoined_sent (socket : SocketId) (s : Tapped σ) :
    (base.tapping.receiveJoined socket s).2.sent = s.sent := by
  have read := base.receive_sent socket s
  rw [receiveJoined]
  generalize base.tapping.receive socket s = received at read ⊢
  obtain ⟨result, after⟩ := received
  cases result with
  | error fault => exact read
  | ok frame => exact (base.joinFollowing_sent socket _ _ after).trans read

theorem pollReadable_sent (socket : SocketId) (wait : Wait) (s : Tapped σ) :
    (base.tapping.pollReadable socket wait s).2.sent = s.sent := by
  have polled : (base.tapping.poll socket .readable wait s).2.sent = s.sent := rfl
  unfold pollReadable
  split
  · next isPolled => rwa [isPolled] at polled
  · exact polled

theorem readWithin_sent (timeout : Option Duration) (socket : SocketId) (s : Tapped σ) :
    (base.tapping.readWithin base.tapping.receiveJoined timeout socket s).2.sent = s.sent := by
  have readNow (s : Tapped σ) :
      (base.tapping.readWithin base.tapping.receiveJoined none socket s).2.sent = s.sent := by
    have read := base.receiveJoined_sent socket s
    rw [readWithin]
    dsimp only
    split <;> next isRead => rwa [isRead] at read
  cases timeout with
  | none => exact readNow s
  | some wait =>
      have polled := base.pollReadable_sent socket (.lasting wait) s
      rw [readWithin]
      dsimp only
      generalize base.tapping.pollReadable socket (.lasting wait) s = found at polled ⊢
      obtain ⟨result, after⟩ := found
      cases result with
      | error fault => exact polled
      | ok isReady =>
          cases isReady with
          | false => exact polled
          | true => exact (readNow after).trans polled

theorem tapping_keeps (role : SocketRole) (endpoint : Endpoint) (options : SocketOptions)
    (sent : List ByteArray) :
    base.tapping.Keeps role endpoint options fun _ s => s.sent = sent where
  closed socket s same := same
  created held s same := same
  opened context s same := by
    have opening : (base.tapping.openSocket context role endpoint options s).2.sent = s.sent := rfl
    split <;> next isOpened => rw [isOpened] at opening; exact opening.trans same

end Fabric

/-! ## Lifecycles -/

namespace Lifecycle

variable {σ : Type} (base : Fabric σ) (lifecycle : Lifecycle) (s : Tapped σ)

theorem isFor_self : lifecycle.IsFor lifecycle.role lifecycle.endpoint lifecycle.options :=
  ⟨rfl, rfl, rfl⟩

theorem establish_sent (context : Option ContextId) :
    (lifecycle.establish base.tapping context s).2.2.sent = s.sent :=
  (establish_keeps (base.tapping_keeps _ _ _ s.sent) ⟨lifecycle.isFor_self, rfl⟩ context).2

theorem renew_sent : (lifecycle.renew base.tapping s).2.2.sent = s.sent :=
  (renew_keeps (base.tapping_keeps _ _ _ s.sent) ⟨lifecycle.isFor_self, rfl⟩).2

theorem destroy_sent : (lifecycle.destroy base.tapping s).2.sent = s.sent :=
  (destroy_keeps (base.tapping_keeps _ _ _ s.sent) ⟨lifecycle.isFor_self, rfl⟩).2

end Lifecycle

/-! ## Subscribers -/

namespace Subscriber

variable {σ : Type} (base : Fabric σ) (subscriber : Subscriber)

theorem receive_sent (timeout : Option Duration) (s : Tapped σ) :
    (subscriber.receive base.tapping timeout s).2.sent = s.sent := by
  unfold receive Lifecycle.receiving
  cases subscriber.lifecycle.live with
  | error error => rfl
  | ok socket =>
      have read := base.readWithin_sent timeout socket s
      dsimp only
      generalize base.tapping.readWithin base.tapping.receiveJoined timeout socket s = found
        at read ⊢
      obtain ⟨result, after⟩ := found
      cases result <;> exact read

theorem drain_sent (count : Nat) (latest : ByteArray) (s : Tapped σ) :
    (subscriber.drain base.tapping count latest s).2.sent = s.sent := by
  induction count generalizing latest s with
  | zero => rfl
  | succ count ih =>
      have read := subscriber.receive_sent base none s
      rw [drain]
      generalize subscriber.receive base.tapping none s = received at read ⊢
      obtain ⟨result, after⟩ := received
      cases result with
      | error error => exact read
      | ok found =>
          cases found with
          | none => exact read
          | some newer => exact (ih newer after).trans read

theorem receiveLatest_sent (timeout : Option Duration) (s : Tapped σ) :
    (subscriber.receiveLatest base.tapping timeout s).2.sent = s.sent := by
  have read := subscriber.receive_sent base timeout s
  unfold receiveLatest
  generalize subscriber.receive base.tapping timeout s = received at read ⊢
  obtain ⟨result, after⟩ := received
  cases result with
  | error error => exact read
  | ok found =>
      cases found with
      | none => exact read
      | some latest => exact (subscriber.drain_sent base _ latest after).trans read

end Subscriber

/-! ## Calls -/

namespace Tapped

variable {σ : Type}

def Sends (message : ByteArray) (before after : Tapped σ) : Prop :=
  after.sent = before.sent ∨ after.sent = before.sent ++ [message]

theorem Sends.same {message : ByteArray} {before middle after : Tapped σ}
    (sends : Sends message before middle) (same : after.sent = middle.sent) :
    Sends message before after := by
  rwa [Sends, same]

end Tapped

open Tapped (Sends)

namespace Requester

variable {σ : Type} {base : Fabric σ} {message : ByteArray} {socket : SocketId}
  {lifecycle : Lifecycle} {s : Tapped σ}

/-- What a send comes to: the message is sent if and only if it was taken over. -/
def Delivers (message : ByteArray) (before : Tapped σ) :
    Except LinkError SocketId × Lifecycle × Tapped σ → Prop
  | (.ok _, _, after) => after.sent = before.sent ++ [message]
  | (.error _, _, after) => after.sent = before.sent

theorem resend_delivers (base : Fabric σ) (message : ByteArray) (socket : SocketId)
    (lifecycle : Lifecycle) (s : Tapped σ) :
    Delivers message s (resend base.tapping message socket lifecycle s) := by
  unfold resend Fabric.tapping
  dsimp only
  generalize base.send socket message false s.surroundings = result
  obtain ⟨outcome, after⟩ := result
  cases outcome <;> exact rfl

theorem sendWithRecovery_delivers (base : Fabric σ) (message : ByteArray) (socket : SocketId)
    (lifecycle : Lifecycle) (s : Tapped σ) :
    Delivers message s (sendWithRecovery base.tapping message socket lifecycle s) := by
  unfold sendWithRecovery
  have sending : base.tapping.send socket message false s =
      match base.send socket message false s.surroundings with
      | (.ok (), surroundings) => (.ok (), ⟨surroundings, s.sent ++ [message]⟩)
      | (.error fault, surroundings) => (.error fault, ⟨surroundings, s.sent⟩) := rfl
  rw [sending]
  generalize base.send socket message false s.surroundings = first
  obtain ⟨outcome, after⟩ := first
  cases outcome with
  | ok _ => exact rfl
  | error fault =>
      dsimp only
      have renewed := Lifecycle.renew_sent base
        ((lifecycle.error
          s!"Failed to send request to {lifecycle.endpoint.text}: {fault.message}").info
          "Re-creating zmq socket and trying again") ⟨after, s.sent⟩
      generalize Lifecycle.renew base.tapping _ _ = opened at renewed ⊢
      obtain ⟨result, fresh, middle⟩ := opened
      cases result with
      | error error => exact renewed
      | ok socket =>
          have delivers := resend_delivers base message socket fresh middle
          dsimp only at renewed ⊢
          generalize resend base.tapping message socket fresh middle = again at delivers ⊢
          obtain ⟨outcome, _, last⟩ := again
          cases outcome with
          | ok _ => exact delivers.trans (by rw [renewed])
          | error _ => exact delivers.trans renewed

theorem failReceive_sent (fault : SocketFault) (lifecycle : Lifecycle) (s : Tapped σ) :
    (failReceive base.tapping fault lifecycle s).2.2.sent = s.sent := by
  unfold failReceive Lifecycle.recover
  dsimp only
  have renewed (reported : Lifecycle) := reported.renew_sent base s
  split <;> next isRenewed => exact (congrArg (·.2.2.sent) isRenewed).symm.trans (renewed _)

theorem readReply_sent (socket : SocketId) (lifecycle : Lifecycle) (s : Tapped σ) :
    (readReply base.tapping socket lifecycle s).2.2.sent = s.sent := by
  have read := base.receiveJoined_sent socket s
  unfold readReply
  generalize base.tapping.receiveJoined socket s = received at read ⊢
  obtain ⟨result, after⟩ := received
  cases result with
  | ok reply => exact read
  | error fault => exact (failReceive_sent fault lifecycle after).trans read

/-- A wait sends nothing if the source that it watches does not. -/
theorem awaitReply_sent {watching : Option (Preempt (Tapped σ))} {interval : Duration}
    {call : Call} {started : Nat} {deadline : Option Deadline} {fuel : Nat}
    (asks : ∀ s, (askWatched watching call.bits s).2.sent = s.sent)
    {done : Except LinkError ByteArray × Lifecycle × Tapped σ}
    (returned : awaitReply base.tapping watching interval call started deadline socket fuel
      lifecycle s = some done) :
    done.2.2.sent = s.sent := by
  induction fuel generalizing s with
  | zero => cases returned
  | succ fuel ih =>
      rw [awaitReply] at returned
      have asked := asks s
      generalize askWatched watching call.bits s = answer at asked returned
      obtain ⟨isRaised, s'⟩ := answer
      cases isRaised with
      | true =>
          cases returned
          exact asked
      | false =>
          dsimp only at asked returned
          cases length : nextWait base.tapping watching.isSome interval deadline s' with
          | error limit =>
              rw [length] at returned
              cases returned
              exact asked
          | ok wait =>
              rw [length] at returned
              dsimp only at returned
              have polled := (base.pollReadable_sent socket wait s').trans asked
              generalize base.tapping.pollReadable socket wait s' = found at polled returned
              obtain ⟨result, after⟩ := found
              cases result with
              | error fault =>
                  cases returned
                  exact (failReceive_sent fault lifecycle after).trans polled
              | ok isReady =>
                  cases isReady with
                  | false => exact (ih returned).trans polled
                  | true =>
                      cases returned
                      exact (readReply_sent socket lifecycle after).trans polled

inductive Ends (fabric : Fabric σ) (client : Requester σ) (fuel : Nat) (call : Call) (s : σ) :
    Except LinkError ByteArray × Requester σ × σ → Prop
  | tooLarge :
      Ends fabric client fuel call s
        (.error (.messageTooLarge call.message.size client.settings.maxMessageSize.toNat),
          client, s)
  | stopped {error : LinkError} (dead : client.lifecycle.live = .error error) :
      Ends fabric client fuel call s (.error error, client, s)
  | unsent {socket : SocketId} {error : LinkError} {lifecycle : Lifecycle} {after : σ}
      (live : client.lifecycle.live = .ok socket)
      (refused : sendWithRecovery fabric call.message socket client.lifecycle s =
        (.error error, lifecycle, after)) :
      Ends fabric client fuel call s (.error error, { client with lifecycle := lifecycle }, after)
  | waited {socket sender : SocketId} {sending lifecycle : Lifecycle} {middle after : σ}
      {result : Except LinkError ByteArray} (live : client.lifecycle.live = .ok socket)
      (accepted : sendWithRecovery fabric call.message socket client.lifecycle s =
        (.ok sender, sending, middle))
      (awaited : awaitReply fabric (watched client.preempt call.bits)
        client.settings.pollInterval call (fabric.clock middle)
        (call.timeout.bind (fabric.deadline · middle)) sender fuel sending middle =
          some (result, lifecycle, after)) :
      Ends fabric client fuel call s (result, { client with lifecycle := lifecycle }, after)

theorem callBytes_ends {fabric : Fabric σ} {client : Requester σ} {fuel : Nat} {call : Call}
    {s : σ} {done : Except LinkError ByteArray × Requester σ × σ}
    (returned : client.callBytes fabric fuel call s = some done) :
    Ends fabric client fuel call s done := by
  unfold callBytes at returned
  dsimp only at returned
  split at returned
  · cases returned
    exact .tooLarge
  · cases live : client.lifecycle.live with
    | error error =>
        rw [live] at returned
        cases returned
        exact .stopped live
    | ok socket =>
        rw [live] at returned
        obtain ⟨⟨result, lifecycle, after⟩, exchanged, rfl⟩ := Option.map_eq_some_iff.mp returned
        unfold exchange at exchanged
        cases sending : sendWithRecovery fabric call.message socket client.lifecycle s with
        | mk outcome rest =>
            obtain ⟨sending', middle⟩ := rest
            rw [sending] at exchanged
            cases outcome with
            | error error =>
                cases exchanged
                exact .unsent live sending
            | ok sender => exact .waited live sending exchanged

/-- A call sends its request once at most, and nothing else, if its source sends nothing. -/
theorem callBytes_sends {client : Requester (Tapped σ)} {fuel : Nat} {call : Call}
    (asks : ∀ s, (askWatched (watched client.preempt call.bits) call.bits s).2.sent = s.sent)
    {done : Except LinkError ByteArray × Requester (Tapped σ) × Tapped σ}
    (returned : client.callBytes base.tapping fuel call s = some done) :
    Sends call.message s done.2.2 := by
  cases callBytes_ends returned with
  | tooLarge => exact .inl rfl
  | stopped dead => exact .inl rfl
  | @unsent socket _ _ _ live refused =>
      have delivers := sendWithRecovery_delivers base call.message socket client.lifecycle s
      rw [refused] at delivers
      exact .inl delivers
  | @waited socket _ _ _ _ _ _ live accepted awaited =>
      have delivers := sendWithRecovery_delivers base call.message socket client.lifecycle s
      rw [accepted] at delivers
      exact .inr ((awaitReply_sent asks awaited).trans delivers)

theorem call_sends {client : Requester (Tapped σ)} {fuel : Nat} {call : Call}
    (unwatched : call.bits = 0) {done : Except LinkError String × Requester (Tapped σ) × Tapped σ}
    (returned : client.call base.tapping fuel call s = some done) :
    Sends call.message s done.2.2 := by
  obtain ⟨bytes, called, rfl⟩ := Option.map_eq_some_iff.mp returned
  exact callBytes_sends (fun s => by rw [unwatched]; rfl) called

end Requester

end TaskLink
