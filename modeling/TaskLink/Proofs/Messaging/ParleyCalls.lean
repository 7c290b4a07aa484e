import TaskLink.Proofs.Messaging.ParleyRecovery

/-!
# Calls of the request client

A call sends its request, perhaps over a socket that it replaced, and then
waits.  It ends with the answer, by giving up on it, or by a failure that
replaces the socket; what it did on the way follows from where the socket
stood and how it ended.
-/

namespace TaskLink

/-- Whether an error tells that a call gave up on its reply. -/
def LinkError.givesUp : LinkError → Bool
  | .timedOut _ _ | .interrupted _ _ => true
  | _ => false

/-- Between calls nothing is composed, and no reply is read in part. -/
def Stand.IsWhole : Stand → Prop
  | .ready composed => composed = []
  | .awaiting => True
  | .reading _ _ => False

namespace Parley

variable {parley : Parley} {id : SocketId} {stand : Stand} {lifecycle : Lifecycle}

/-! ## Sending -/

/-- How a request leaves the client, at once or over another socket, or does not leave it. -/
inductive SendsRequest (parley : Parley) (id : SocketId) (stand : Stand) (message : ByteArray)
    (lifecycle : Lifecycle) : Except LinkError SocketId × Lifecycle × Parley → Prop where
  | direct {after : Parley} (isReady : stand = .ready [])
      (leads : parley.Leads (some (id, .awaiting)) [.transmitted id [message]] after) :
      SendsRequest parley id stand message lifecycle (.ok id, lifecycle, after)
  | resent {fresh : SocketId} {renewed : Lifecycle} {after : Parley}
      (socket : renewed.socket = some fresh) (role : renewed.role = .requester)
      (resends : renewed.resends = lifecycle.resends + 1)
      (leads : parley.Leads (some (fresh, .awaiting))
        (.transmitted fresh [message] :: .opened fresh :: stand.refusal id) after) :
      SendsRequest parley id stand message lifecycle (.ok fresh, renewed, after)
  | refused {error : LinkError} {fresh : SocketId} {renewed : Lifecycle} {after : Parley}
      (socket : renewed.socket = some fresh) (role : renewed.role = .requester)
      (leads : parley.Leads (some (fresh, .ready []))
        (.declined fresh :: .opened fresh :: stand.refusal id) after) :
      SendsRequest parley id stand message lifecycle (.error error, renewed, after)
  | lost {error : LinkError} {emptied : Lifecycle} {after : Parley}
      (socket : emptied.socket = none) (role : emptied.role = .requester)
      (leads : parley.Leads none (.openingFailed :: stand.refusal id) after) :
      SendsRequest parley id stand message lifecycle (.error error, emptied, after)

theorem sendsRequest (attends : parley.Attends (some (id, stand))) (whole : stand.IsWhole)
    (role : lifecycle.role = .requester) (socket : lifecycle.socket = some id)
    (message : ByteArray) :
    parley.SendsRequest id stand message lifecycle
      (Requester.sendWithRecovery fabric message id lifecycle parley) := by
  unfold Requester.sendWithRecovery
  rcases attends.send message false with
    ⟨fault, middle, refused, first⟩ | ⟨composed, after, isReady, accepted, leads⟩
  · rw [refused]
    dsimp only
    have counted (line : String) :
        ((lifecycle.error line).info "Re-creating zmq socket and trying again").resends =
          lifecycle.resends + 1 := by
      rw [Lifecycle.resends_resend, Lifecycle.resends_error]
    have renewal (line : String) :=
      Lifecycle.renew_opens
        ((lifecycle.error line).info "Re-creating zmq socket and trying again")
        role first.attends socket.symm
    cases renewed : ((lifecycle.error
        s!"Failed to send request to {lifecycle.endpoint.text}: {fault.message}").info
          "Re-creating zmq socket and trying again").renew fabric middle with
    | mk result rest =>
        obtain ⟨opened, after⟩ := rest
        have opens := renewal
          s!"Failed to send request to {lifecycle.endpoint.text}: {fault.message}"
        rw [renewed] at opens
        cases opens with
        | failed socket role resends leads => exact .lost socket role (first.trans leads)
        | ready socket role resends leads =>
            dsimp only at resends leads ⊢
            unfold Requester.resend
            rcases leads.attends.send message false with
              ⟨fault, last, refused, again⟩ | ⟨composed, last, isReady, accepted, again⟩
            · rw [refused]
              exact .refused socket role (first.trans (leads.trans again))
            · rw [accepted]
              cases isReady
              exact .resent socket role (resends.trans (counted _))
                (first.trans (leads.trans again))
  · subst isReady
    have nothing : composed = [] := whole
    subst nothing
    rw [accepted]
    exact .direct rfl leads

/-! ## Waiting -/

inductive Concludes (parley : Parley) (id : SocketId) (lifecycle : Lifecycle) :
    Except LinkError ByteArray × Lifecycle × Parley → Prop where
  | givenUp {error : LinkError} {noted : Lifecycle} {after : Parley}
      (givesUp : error.givesUp = true) (socket : noted.socket = some id)
      (role : noted.role = .requester) (resends : noted.resends = lifecycle.resends)
      (leads : parley.Leads (some (id, .awaiting)) [] after) :
      Concludes parley id lifecycle (.error error, noted, after)
  | replied {frames : List ByteArray} {after : Parley}
      (leads : parley.Leads (some (id, .ready [])) [.replied id] after)
      (answered : ParleyEvent.progress id after.history = .answered frames) :
      Concludes parley id lifecycle (.ok (joinFrames frames), lifecycle, after)
  | failed {detail : String} {result : Except LinkError SocketId} {recovered : Lifecycle}
      {after : Parley} (opens : parley.Opens lifecycle result recovered after) :
      Concludes parley id lifecycle (.error (.receiveFailed detail), recovered, after)

theorem Concludes.after {middle : Parley} {held : Option (SocketId × Stand)}
    {outcome : Except LinkError ByteArray × Lifecycle × Parley}
    (first : parley.Leads held [] middle) (concludes : middle.Concludes id lifecycle outcome) :
    parley.Concludes id lifecycle outcome := by
  cases concludes with
  | givenUp givesUp socket role resends leads =>
      exact .givenUp givesUp socket role resends (first.then leads)
  | replied leads answered => exact .replied (first.then leads) answered
  | failed opens => exact .failed (Lifecycle.opens_after first rfl opens)

theorem Concludes.leads {outcome : Except LinkError ByteArray × Lifecycle × Parley}
    (concludes : parley.Concludes id lifecycle outcome) :
    ∃ held deeds, parley.Leads held deeds outcome.2.2 := by
  cases concludes with
  | givenUp givesUp socket role resends leads => exact ⟨_, _, leads⟩
  | replied leads answered => exact ⟨_, _, leads⟩
  | failed opens =>
      cases opens with
      | ready socket role resends leads => exact ⟨_, _, leads⟩
      | failed socket role resends leads => exact ⟨_, _, leads⟩

theorem failReceive_concludes (attends : parley.Attends (some (id, stand)))
    (role : lifecycle.role = .requester) (socket : lifecycle.socket = some id)
    (fault : SocketFault) :
    parley.Concludes id lifecycle (Requester.failReceive fabric fault lifecycle parley) := by
  unfold Requester.failReceive
  dsimp only
  obtain ⟨result, opens⟩ := Lifecycle.recover_opens
    (lifecycle.error
      s!"Failed to receive response from {lifecycle.endpoint.text}: {fault.message}")
    role attends socket.symm
  exact .failed (Lifecycle.opens_after attends.leads (Lifecycle.resends_error lifecycle _) opens)

theorem readReply_concludes (attends : parley.Attends (some (id, .awaiting)))
    (role : lifecycle.role = .requester) (socket : lifecycle.socket = some id) :
    parley.Concludes id lifecycle (Requester.readReply fabric id lifecycle parley) := by
  have reads := attends.receiveFrames
  rw [Requester.readReply, Fabric.receiveJoined_eq]
  cases received : fabric.receiveFrames id parley with
  | mk result after =>
      rw [received] at reads
      cases reads with
      | failed leads => exact (failReceive_concludes leads.attends role socket _).after leads
      | whole leads answered => exact .replied leads answered

/-- However long it lasts, the wait ends in one of these ways if it ends at all. -/
theorem awaitReply_concludes {watching : Option (Preempt Parley)}
    (source : ∀ preempt, watching = some preempt → preempt = ask) {interval : Duration}
    {call : Call} {started : Nat} {deadline : Option Deadline} {fuel : Nat}
    {outcome : Except LinkError ByteArray × Lifecycle × Parley}
    (attends : parley.Attends (some (id, .awaiting))) (role : lifecycle.role = .requester)
    (socket : lifecycle.socket = some id)
    (returned : Requester.awaitReply fabric watching interval call started deadline id fuel
      lifecycle parley = some outcome) :
    parley.Concludes id lifecycle outcome := by
  induction fuel generalizing parley with
  | zero => cases returned
  | succ fuel ih =>
      rw [Requester.awaitReply] at returned
      have asked : parley.Leads (some (id, .awaiting)) []
          (Requester.askWatched watching call.bits parley).2 := by
        cases watching with
        | none => exact attends.leads
        | some preempt =>
            rw [source preempt rfl]
            exact attends.ask call.bits
      cases parts : Requester.askWatched watching call.bits parley with
      | mk answer middle =>
          rw [parts] at asked returned
          cases answer with
          | true =>
              cases returned
              exact .givenUp rfl socket role (Lifecycle.resends_error lifecycle _) asked
          | false =>
              dsimp only at asked returned
              cases waiting :
                  Requester.nextWait fabric watching.isSome interval deadline middle with
              | error limit =>
                  rw [waiting] at returned
                  cases returned
                  exact .givenUp rfl socket role (Lifecycle.resends_error lifecycle _) asked
              | ok wait =>
                  rw [waiting] at returned
                  dsimp only at returned
                  have polled := asked.attends.pollReadable id wait
                  cases polling : fabric.pollReadable id wait middle with
                  | mk result after =>
                      rw [polling] at polled returned
                      have led := asked.then polled
                      cases result with
                      | error fault =>
                          cases returned
                          exact (failReceive_concludes led.attends role socket fault).after led
                      | ok ready =>
                          cases ready with
                          | true =>
                              cases returned
                              exact (readReply_concludes led.attends role socket).after led
                          | false => exact (ih led.attends returned).after led

end Parley

/-! ## Whole calls -/

structure Conversation where
  client : Requester Parley
  parley : Parley

structure Conversation.Stands (conversation : Conversation) (held : Option (SocketId × Stand)) :
    Prop where
  attends : conversation.parley.Attends held
  role : conversation.client.lifecycle.role = .requester
  socket : held.map Prod.fst = conversation.client.lifecycle.socket
  whole : ∀ id stand, held = some (id, stand) → stand.IsWhole
  source : ∀ preempt, conversation.client.preempt = some preempt → preempt = Parley.ask

def Conversation.Sends (conversation : Conversation) (call : Call) : Prop :=
  call.message.size ≤ conversation.client.settings.maxMessageSize.toNat ∧
    conversation.client.lifecycle.isLive = true

inductive Conversation.Calls (conversation : Conversation) (held : Option (SocketId × Stand))
    (call : Call) : Except LinkError ByteArray × Requester Parley × Parley → Prop where
  | tooLarge {size limit : Nat} (unsent : ¬ conversation.Sends call) :
      Calls conversation held call
        (.error (.messageTooLarge size limit), conversation.client, conversation.parley)
  | stopped {detail : String} (unsent : ¬ conversation.Sends call) :
      Calls conversation held call
        (.error (.notInitialized detail), conversation.client, conversation.parley)
  | unsent {id : SocketId} {stand : Stand} {error : LinkError} {lifecycle : Lifecycle}
      {after : Parley} (isHeld : held = some (id, stand)) (sends : conversation.Sends call)
      (refused : conversation.parley.SendsRequest id stand call.message
        conversation.client.lifecycle (.error error, lifecycle, after)) :
      Calls conversation held call
        (.error error, { conversation.client with lifecycle := lifecycle }, after)
  | sent {id socket : SocketId} {stand : Stand} {sender lifecycle : Lifecycle}
      {middle after : Parley} {result : Except LinkError ByteArray}
      (isHeld : held = some (id, stand)) (sends : conversation.Sends call)
      (accepted : conversation.parley.SendsRequest id stand call.message
        conversation.client.lifecycle (.ok socket, sender, middle))
      (concludes : middle.Concludes socket sender (result, lifecycle, after)) :
      Calls conversation held call
        (result, { conversation.client with lifecycle := lifecycle }, after)

theorem Conversation.Stands.calls {conversation : Conversation}
    {held : Option (SocketId × Stand)} (stands : conversation.Stands held) {fuel : Nat}
    {call : Call} {outcome : Except LinkError ByteArray × Requester Parley × Parley}
    (returned : conversation.client.callBytes Parley.fabric fuel call conversation.parley =
      some outcome) : conversation.Calls held call outcome := by
  unfold Requester.callBytes at returned
  dsimp only at returned
  split at returned
  · next large =>
      cases returned
      exact .tooLarge fun sends => Nat.not_le_of_lt large sends.1
  · next fits =>
      have small := Nat.le_of_not_lt fits
      have isHeld := stands.socket
      unfold Lifecycle.live at returned
      cases socket : conversation.client.lifecycle.socket with
      | none =>
          rw [socket] at returned
          cases returned
          refine .stopped fun sends => ?_
          have live := sends.2
          rw [Lifecycle.isLive, socket] at live
          cases live
      | some id =>
          rw [socket] at returned isHeld
          obtain ⟨⟨name, stand⟩, standing, rfl⟩ := Option.map_eq_some_iff.mp isHeld
          subst standing
          have sends : conversation.Sends call := by
            refine ⟨small, ?_⟩
            rw [Lifecycle.isLive, socket]
            rfl
          dsimp only at returned socket
          unfold Requester.exchange at returned
          have leaves := Parley.sendsRequest stands.attends (stands.whole name stand rfl)
            stands.role socket call.message
          cases sending : Requester.sendWithRecovery Parley.fabric call.message name
              conversation.client.lifecycle conversation.parley with
          | mk result rest =>
              obtain ⟨lifecycle, middle⟩ := rest
              rw [sending] at returned leaves
              cases result with
              | error error =>
                  cases returned
                  exact .unsent rfl sends leaves
              | ok sender =>
                  obtain ⟨ended, waiting, rfl⟩ := Option.map_eq_some_iff.mp returned
                  obtain ⟨result, final, after⟩ := ended
                  refine .sent rfl sends leaves ?_
                  have source : ∀ preempt,
                      Requester.watched conversation.client.preempt call.bits = some preempt →
                        preempt = Parley.ask := by
                    intro preempt watched
                    unfold Requester.watched at watched
                    split at watched
                    · cases watched
                    · exact stands.source preempt watched
                  cases leaves with
                  | direct isReady leads =>
                      exact Parley.awaitReply_concludes source leads.attends stands.role socket
                        waiting
                  | resent socket role resends leads =>
                      exact Parley.awaitReply_concludes source leads.attends role socket waiting

end TaskLink
