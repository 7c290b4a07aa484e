import TaskLink.Proofs.Messaging.ParleyRuns

/-!
# Every reply is fresh

A call that returns a reply returns what its peer answered to the very request
that this call sent.  The order of the history says so: after the request was
transmitted nothing else was transmitted, so what was answered last on that
socket was taken after it.
-/

namespace TaskLink

/-! ## Reading a history -/

namespace ParleyEvent

def Quiet (id : SocketId) (events : List ParleyEvent) : Prop :=
  ∀ event ∈ events, event.mark id = none

/-- How far an exchange has come is told by its latest event. -/
theorem progress_append (id : SocketId) (later earlier : List ParleyEvent) :
    (Quiet id later ∧ progress id (later ++ earlier) = progress id earlier) ∨
    (∃ recent event rest, later = recent ++ event :: rest ∧ Quiet id recent ∧
      event.mark id = some (progress id (later ++ earlier))) := by
  unfold progress
  rw [List.findSome?_append]
  cases found : later.findSome? (mark id) with
  | none => exact Or.inl ⟨List.findSome?_eq_none_iff.mp found, rfl⟩
  | some reached =>
      obtain ⟨recent, event, rest, split, marked, quiet⟩ := List.findSome?_eq_some_iff.mp found
      exact Or.inr ⟨recent, event, rest, split, quiet, marked⟩

/-- Who is owed an answer was taken after all events that change whom the peer owes. -/
theorem debt_eq_none {id : SocketId} {waiting earlier : List ParleyEvent} (quiet : Quiet id waiting)
    (owes : owed (waiting ++ earlier) = some id) : ∀ event ∈ waiting, event.debt = none := by
  unfold owed at owes
  rw [List.findSome?_append] at owes
  cases found : waiting.findSome? debt with
  | none => exact List.findSome?_eq_none_iff.mp found
  | some owing =>
      rw [found] at owes
      obtain ⟨recent, event, rest, split, changes, -⟩ := List.findSome?_eq_some_iff.mp found
      have isOwing : owing = some id := owes
      rw [isOwing] at changes
      have unmarked := quiet event (by rw [split]; simp)
      cases event with
      | taken socket request =>
          cases changes
          rw [mark, if_pos rfl] at unmarked
          cases unmarked
      | answered socket frames => cases changes
      | transmitted socket frames => cases changes
      | opened socket => cases changes
      | openingFailed => cases changes
      | admitted socket => cases changes
      | declined socket => cases changes
      | replied socket => cases changes

end ParleyEvent

/-! ## Fresh answers -/

/--
What was asked over a socket after what is past was answered: the peer took
that request, and answered it while it owed an answer to nobody else.  Nothing
else happened on the socket, on which every earlier request had been settled.
-/
def IsAnswered (socket : SocketId) (asked frames : List ByteArray)
    (past history : List ParleyEvent) : Prop :=
  ∃ (request : Reading) (recent waiting pending before : List ParleyEvent),
    history =
        recent ++ .answered socket frames ::
          (waiting ++ .taken socket request ::
            (pending ++ .transmitted socket asked :: before)) ∧
      past <:+ before ∧
      request.IsOf asked ∧
      ParleyEvent.Quiet socket recent ∧
      ParleyEvent.Quiet socket waiting ∧ (∀ event ∈ waiting, event.debt = none) ∧
      ParleyEvent.Quiet socket pending ∧
      (ParleyEvent.progress socket before).IsSettled

/--
The reply is the peer's answer to a request that was transmitted after what is
past: the peer took that request, and answered it while it owed an answer to
nobody else.  Nothing else happened on the request's socket, on which every
earlier request had been settled.
-/
def IsFreshAnswer (message reply : ByteArray) (past history : List ParleyEvent) : Prop :=
  ∃ (socket : SocketId) (request : Reading) (frames : List ByteArray)
    (recent waiting pending before : List ParleyEvent),
    history =
        recent ++ .answered socket frames ::
          (waiting ++ .taken socket request ::
            (pending ++ .transmitted socket [message] :: before)) ∧
      past <:+ before ∧
      reply = joinFrames frames ∧
      request.IsOf [message] ∧
      ParleyEvent.Quiet socket recent ∧
      ParleyEvent.Quiet socket waiting ∧ (∀ event ∈ waiting, event.debt = none) ∧
      ParleyEvent.Quiet socket pending ∧
      (ParleyEvent.progress socket before).IsSettled

theorem IsAnswered.isFreshAnswer {socket : SocketId} {message : ByteArray}
    {frames : List ByteArray} {past history : List ParleyEvent}
    (isAnswered : IsAnswered socket [message] frames past history) :
    IsFreshAnswer message (joinFrames frames) past history := by
  obtain ⟨request, recent, waiting, pending, before, split, earlier, isOf, rest⟩ := isAnswered
  exact ⟨socket, request, frames, recent, waiting, pending, before, split, earlier, rfl, isOf, rest⟩

namespace ParleyEvent

/-- If nothing was transmitted after a request, an answered exchange is that request's. -/
theorem Orderly.isAnswered {socket : SocketId} {asked frames : List ByteArray}
    {later before past : List ParleyEvent}
    (orderly : Orderly (later ++ .transmitted socket asked :: before))
    (untransmitted : ∀ other sent, .transmitted other sent ∉ later)
    (answered : progress socket (later ++ .transmitted socket asked :: before) =
      .answered frames)
    (earlier : past <:+ before) :
    IsAnswered socket asked frames past (later ++ .transmitted socket asked :: before) := by
  have isAsked : progress socket (.transmitted socket asked :: before) = .asked asked :=
    progress_transmitted asked before
  -- The answer is the latest event on the socket.
  rcases progress_append socket later (.transmitted socket asked :: before) with
    ⟨-, same⟩ | ⟨recent, answer, rest, rfl, quietRecent, marked⟩
  · rw [answered, isAsked] at same
    cases same
  rw [answered] at marked
  have isAnswer : answer = .answered socket frames := of_mark marked
  subst isAnswer
  rw [List.append_assoc, List.cons_append] at orderly ⊢
  obtain ⟨⟨isTaken, owes⟩, orderlyRest⟩ := orderly.of_append
  -- Before it the peer took a request of the same socket.
  rcases progress_append socket rest (.transmitted socket asked :: before) with
    ⟨-, same⟩ | ⟨waiting, take, pending, rfl, quietWaiting, marked⟩
  · rw [isTaken, isAsked] at same
    cases same
  rw [isTaken] at marked
  obtain ⟨request, isTake⟩ : ∃ request, take = .taken socket request := of_mark marked
  subst isTake
  rw [List.append_assoc, List.cons_append] at orderlyRest owes ⊢
  obtain ⟨⟨sent, isSent, isOf⟩, orderlyPending⟩ := orderlyRest.of_append
  -- And before that there is only the transmission.
  rcases progress_append socket pending (.transmitted socket asked :: before) with
    ⟨quietPending, same⟩ | ⟨others, transmission, more, rfl, -, marked⟩
  · rw [isSent, isAsked] at same
    cases same
    have settled := orderlyPending.of_append.1
    exact ⟨request, recent, waiting, pending, before, rfl, earlier, isOf, quietRecent,
      quietWaiting, debt_eq_none quietWaiting owes, quietPending, settled⟩
  · rw [isSent] at marked
    have isTransmission : transmission = .transmitted socket sent := of_mark marked
    subst isTransmission
    exact absurd (by simp) (untransmitted socket sent)

end ParleyEvent

/-- Where a request was transmitted and then a reply was read, the reply answers the request. -/
theorem Parley.Leads.isAnswered {parley after : Parley} {held : Option (SocketId × Stand)}
    {socket : SocketId} {asked frames : List ByteArray} {deeds : List ParleyEvent}
    (leads : parley.Leads held (.replied socket :: .transmitted socket asked :: deeds) after)
    (answered : ParleyEvent.progress socket after.history = .answered frames) :
    IsAnswered socket asked frames parley.history after.history := by
  obtain ⟨during, split⟩ := leads.history_suffix
  have told := leads.deeds_eq
  unfold Parley.deeds at told
  rw [← split, List.filter_append] at told
  have mine := List.append_cancel_right told
  obtain ⟨recent, rest, rfl, theirs, -, mine⟩ := List.filter_eq_cons_iff.mp mine
  obtain ⟨later, before, rfl, theirs', -, -⟩ := List.filter_eq_cons_iff.mp mine
  have history : after.history =
      (recent ++ .replied socket :: later) ++ .transmitted socket asked ::
        (before ++ parley.history) := by
    rw [← split]
    simp
  rw [history]
  rw [history] at answered
  refine ParleyEvent.Orderly.isAnswered ?_ ?_ answered (List.suffix_append _ _)
  · rw [← history]
    exact leads.attends.concord.orderly
  · intro other sent member
    rcases List.mem_append.mp member with inRecent | inRest
    · exact theirs _ inRecent rfl
    · rcases List.mem_cons.mp inRest with impossible | inLater
      · cases impossible
      · exact theirs' _ inLater rfl

/-! ## Calls -/

namespace Conversation

variable {conversation : Conversation} {held : Option (SocketId × Stand)}

/-- The reply that a call returns is a fresh answer. -/
theorem Calls.isFreshAnswer {call : Call} {reply : ByteArray} {client : Requester Parley}
    {after : Parley} (calls : conversation.Calls held call (.ok reply, client, after)) :
    IsFreshAnswer call.message reply conversation.parley.history after.history := by
  cases calls with
  | @sent id fresh stand sender lifecycle middle _ _ isHeld sends accepted concludes =>
      have sending : ∃ deeds, conversation.parley.Leads (some (fresh, .awaiting))
          (.transmitted fresh [call.message] :: deeds) middle := by
        cases accepted with
        | direct isReady leads => exact ⟨_, leads⟩
        | resent socket role resends leads => exact ⟨_, leads⟩
      obtain ⟨deeds, leads⟩ := sending
      cases concludes with
      | replied reads answered => exact ((leads.trans reads).isAnswered answered).isFreshAnswer

end Conversation

theorem Requester.decodeUtf8_of_replyText {reply : ByteArray} {text : String}
    (decoded : replyText reply = .ok text) : decodeUtf8 reply = .ok text := by
  unfold replyText at decoded
  split at decoded
  · next same => rw [same, Except.ok.inj decoded]
  · cases decoded

/--
Whatever was done with a client before, and whatever its peer did at any
moment, a call that returns a reply returns the peer's answer to the request
that this call sent.
-/
theorem Account.reply_is_fresh {conversation : Conversation} (begins : conversation.Begins)
    {operations : List ClientOperation} {reached : Account}
    (ran : run operations ⟨conversation, []⟩ = some reached) (fuel : Nat) (call : Call) :
    (∀ reply client after,
      reached.now.client.callBytes Parley.fabric fuel call reached.now.parley =
          some (.ok reply, client, after) →
        IsFreshAnswer call.message reply reached.now.parley.history after.history) ∧
    (∀ text client after,
      reached.now.client.call Parley.fabric fuel call reached.now.parley =
          some (.ok text, client, after) →
        ∃ reply, decodeUtf8 reply = .ok text ∧
          IsFreshAnswer call.message reply reached.now.parley.history after.history) := by
  obtain ⟨held, stands⟩ := run_stands begins.stands ran
  constructor
  · intro reply client after returned
    exact (stands.calls returned).isFreshAnswer
  · intro text client after called
    obtain ⟨⟨result, client', after'⟩, returned, same⟩ := Option.map_eq_some_iff.mp called
    cases result with
    | error error => cases same
    | ok reply =>
        obtain ⟨decoded, rest⟩ := Prod.mk.inj same
        obtain ⟨rfl, rfl⟩ := Prod.mk.inj rest
        exact ⟨reply, Requester.decodeUtf8_of_replyText decoded,
          (stands.calls returned).isFreshAnswer⟩

namespace LateAnswer

def byte (value : UInt8) : ByteArray :=
  ⟨#[value]⟩

/-- A client and its peer on one machine; the peer answers `4` just before the second call polls. -/
def conversation : Conversation where
  client :=
    { settings := { endpoint := ⟨"localhost", 5555⟩ }
      lifecycle := { role := .requester, endpoint := ⟨"localhost", 5555⟩ } }
  parley :=
    { peer := ⟨{ role := .responder, endpoint := ⟨"*", 5555⟩ }⟩
      script := List.replicate 7 {} ++ [{ moves := [.receive none, .send (byte 4)] }] }

/-- A call that gives up on `1`, and its answer `3` that comes too late. -/
def operations : List ClientOperation :=
  [.peer (.manage .start), .manage .start,
    .callBytes 3 { message := byte 1, timeout := some (.ofMillis 100) },
    .peer (.receive none), .peer (.send (byte 3))]

def call : Call :=
  { message := byte 2 }

end LateAnswer

open LateAnswer in
/-- The late answer is lost with the socket that was replaced, and the next call gets its own. -/
theorem Account.reply_is_fresh_after_late_answer :
    conversation.Begins ∧
      ∃ reached client after, run operations ⟨conversation, []⟩ = some reached ∧
        reached.now.client.callBytes Parley.fabric 3 call reached.now.parley =
          some (.ok (byte 4), client, after) ∧
        IsFreshAnswer (byte 2) (byte 4) reached.now.parley.history after.history := by
  have begins : conversation.Begins :=
    ⟨⟨{ endpoint := ⟨"localhost", 5555⟩ }, none, false, rfl⟩,
      ⟨⟨{ endpoint := ⟨"*", 5555⟩ }, none, rfl⟩, rfl, rfl⟩⟩
  have replies :
      ((run operations ⟨conversation, []⟩).bind fun reached =>
        (reached.now.client.callBytes Parley.fabric 3 call reached.now.parley).map fun outcome =>
          outcome.1.toOption) = some (some (byte 4)) := by
    decide +kernel
  obtain ⟨reached, ran, called⟩ := Option.bind_eq_some_iff.mp replies
  obtain ⟨⟨result, client, after⟩, returned, isReply⟩ := Option.map_eq_some_iff.mp called
  cases result with
  | error error => cases isReply
  | ok reply =>
      cases Option.some.inj isReply
      exact ⟨begins, reached, client, after, ran, returned,
        (reply_is_fresh begins ran 3 call).1 _ _ _ returned⟩

end TaskLink
