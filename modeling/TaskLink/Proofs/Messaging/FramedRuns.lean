import TaskLink.Proofs.Messaging.FramedExchange

/-!
# The framed client never gets stuck

A run is any row of operations on one framed client, among which its peer
moves.  Between the exchanges the client is ready for the next one, so what
reaches the peer is always all that one exchange was asked to send.
-/

namespace TaskLink

/-! ## Operations -/

inductive FramedOperation where
  | manage (operation : LifecycleOperation)
  | exchange (fuel : Nat) (frames : List ByteArray) (timeout : Duration)
  | peer (move : PeerMove)

def FramedOperation.request : FramedOperation → Option (List ByteArray)
  | .exchange _ frames _ => some frames
  | _ => none

def Parley.requests (parley : Parley) : List (List ByteArray) :=
  parley.deeds.filterMap ParleyEvent.request

/-- What the peer was asked is among the requests of the client. -/
theorem Parley.mem_requests {parley : Parley} {socket : SocketId} {frames : List ByteArray}
    (sent : .transmitted socket frames ∈ parley.history) : frames ∈ parley.requests :=
  List.mem_filterMap.mpr ⟨_, List.mem_filter.mpr ⟨sent, rfl⟩, rfl⟩

namespace FramedConversation

/-- The conversation after an operation; there is none if its fuel does not settle an exchange. -/
def perform (conversation : FramedConversation) : FramedOperation → Option FramedConversation
  | .manage operation =>
      match operation.perform Parley.fabric conversation.client.lifecycle conversation.parley with
      | (_, lifecycle, parley) => some ⟨⟨lifecycle⟩, parley⟩
  | .exchange fuel frames timeout =>
      (conversation.client.exchange Parley.fabric fuel frames timeout conversation.parley).map
        fun (_, client, parley) => ⟨client, parley⟩
  | .peer move => some ⟨conversation.client, move.perform conversation.parley⟩

def run : List FramedOperation → FramedConversation → Option FramedConversation
  | [], conversation => some conversation
  | operation :: rest, conversation => (conversation.perform operation).bind (run rest)

/-- A new client, and nothing has happened around it. -/
structure Begins (conversation : FramedConversation) : Prop where
  client : ∃ settings shared, FramedRequester.create settings shared = .ok conversation.client
  parley : conversation.parley.Begins

/-! ## Runs -/

variable {conversation : FramedConversation}

theorem Begins.rests (begins : conversation.Begins) : conversation.Rests := by
  obtain ⟨⟨settings, shared, created⟩, parley⟩ := begins
  unfold FramedRequester.create at created
  split at created
  · cases created
  · have isClient := Except.ok.inj created
    constructor
    · rw [← isClient]
      exact parley.attends
    · rw [← isClient]

/-- An operation leaves the client at rest, and sends nothing but what it was asked to. -/
theorem Rests.perform (rests : conversation.Rests) {operation : FramedOperation}
    {after : FramedConversation} (performed : conversation.perform operation = some after) :
    ∃ deeds, conversation.Reaches after deeds ∧
      (deeds.filterMap ParleyEvent.request).Sublist
        ([operation].filterMap FramedOperation.request) := by
  cases operation with
  | manage operation =>
      have attends := rests.attends
      unfold FramedConversation.perform at performed
      dsimp only at performed
      rcases operation.perform_parley rests.role attends (Stand.fst_unused _) with
        ⟨rfl, live, same⟩ | ⟨rfl, destroyed, parley, same, socket, role, resends, leads⟩ |
        ⟨notDestroy, notLive, result, opened, parley, opens, same⟩
      · rw [same] at performed
        cases performed
        exact ⟨[], ⟨rests, rfl⟩, List.nil_sublist _⟩
      · rw [same] at performed
        cases performed
        refine ⟨[], ⟨⟨?_, role⟩, leads.deeds_eq⟩, List.nil_sublist _⟩
        rw [socket]
        exact leads.attends
      · rw [same] at performed
        cases performed
        rcases reaches_of_opens attends.leads opens with ⟨fresh, -, reaches⟩ | ⟨-, reaches⟩
        · exact ⟨_, reaches, List.nil_sublist _⟩
        · exact ⟨_, reaches, List.nil_sublist _⟩
  | exchange fuel frames timeout =>
      obtain ⟨⟨result, client, parley⟩, returned, rfl⟩ := Option.map_eq_some_iff.mp performed
      obtain ⟨deeds, trace, reaches, -⟩ := rests.exchange returned
      exact ⟨deeds, reaches, trace.requests⟩
  | peer move =>
      cases performed
      have leads := move.perform_leads rests.attends
      exact ⟨[], ⟨⟨leads.attends, rests.role⟩, leads.deeds_eq⟩, List.nil_sublist _⟩

theorem Rests.run (rests : conversation.Rests) {operations : List FramedOperation}
    {reached : FramedConversation} (ran : run operations conversation = some reached) :
    ∃ deeds, conversation.Reaches reached deeds ∧
      (deeds.filterMap ParleyEvent.request).Sublist
        (operations.reverse.filterMap FramedOperation.request) := by
  induction operations generalizing conversation with
  | nil =>
      cases ran
      exact ⟨[], ⟨rests, rfl⟩, List.nil_sublist _⟩
  | cons operation rest ih =>
      obtain ⟨middle, performed, later⟩ := Option.bind_eq_some_iff.mp ran
      obtain ⟨deeds, first, sent⟩ := rests.perform performed
      obtain ⟨deeds', second, sent'⟩ := ih first.rests later
      refine ⟨deeds' ++ deeds, ⟨second.rests, ?_⟩, ?_⟩
      · rw [second.deeds_eq, first.deeds_eq, List.append_assoc]
      · rw [List.filterMap_append, List.reverse_cons, List.filterMap_append]
        exact sent'.append sent

/-- All that has been sent since the beginning was asked for. -/
theorem Begins.requests_sublist (begins : conversation.Begins) {reached : FramedConversation}
    {deeds : List ParleyEvent} {wanted : List (List ByteArray)}
    (reaches : conversation.Reaches reached deeds)
    (sent : (deeds.filterMap ParleyEvent.request).Sublist wanted) :
    reached.parley.requests.Sublist wanted := by
  have nothing : conversation.parley.deeds.filterMap ParleyEvent.request = [] := by
    rw [Parley.deeds, begins.parley.history]
    rfl
  rwa [Parley.requests, reaches.deeds_eq, List.filterMap_append, nothing, List.append_nil]

/-- What the peer is to take is what one of the operations asked for. -/
theorem mem_of_asked {operations : List FramedOperation}
    (sublist : conversation.parley.requests.Sublist
      (operations.reverse.filterMap FramedOperation.request))
    {id : SocketId} {frames : List ByteArray} {past : List ParleyEvent}
    (isPast : past <:+ conversation.parley.history)
    (asked : ParleyEvent.progress id past = .asked frames) :
    frames ∈ operations.filterMap FramedOperation.request := by
  have sent := isPast.mem (ParleyEvent.transmitted_of_asked asked)
  have member := sublist.mem (Parley.mem_requests sent)
  rwa [List.filterMap_reverse, List.mem_reverse] at member

/-- What an exchange has made of a conversation, and what the client did in it. -/
structure Exchanged (before : FramedConversation) (frames : List ByteArray)
    (result : Except LinkError (List ByteArray)) (after : FramedConversation)
    (during : List ParleyEvent) : Prop where
  deeds_eq : after.parley.deeds = during ++ before.parley.deeds
  trace : ExchangeTrace before.client frames result after.client during
  of_nil : frames = [] → during = []
  openings : during.countP ParleyEvent.isOpening = if ParleyEvent.failsLate during then 1 else 0
  isLive : .openingFailed ∉ during →
    after.client.lifecycle.isLive = before.client.lifecycle.isLive
  isReady : after.client.lifecycle.isLive = true → after.client.lifecycle.IsReadyIn after.parley

theorem Rests.exchanged (rests : conversation.Rests) {fuel : Nat} {frames : List ByteArray}
    {timeout : Duration} {result : Except LinkError (List ByteArray)} {client : FramedRequester}
    {after : Parley}
    (returned : conversation.client.exchange Parley.fabric fuel frames timeout
      conversation.parley = some (result, client, after)) :
    ∃ during, conversation.Exchanged frames result ⟨client, after⟩ during := by
  obtain ⟨during, trace, reaches, -⟩ := rests.exchange returned
  refine ⟨during, reaches.deeds_eq, trace, ?_, trace.openings, trace.isLive,
    reaches.rests.isReadyIn⟩
  rintro rfl
  obtain ⟨-, rfl⟩ := exchange_nil returned
  exact List.append_cancel_right (reaches.deeds_eq.symm.trans (List.nil_append _).symm)

/-- What holds of a conversation after some operations, and of its next exchange. -/
structure IsUnstuck (conversation : FramedConversation) (operations : List FramedOperation) :
    Prop where
  isReady : conversation.client.lifecycle.isLive = true →
    conversation.client.lifecycle.IsReadyIn conversation.parley
  requests : conversation.parley.requests.Sublist
    (operations.reverse.filterMap FramedOperation.request)
  taken : ∀ socket request, .taken socket request ∈ conversation.parley.history →
    ∃ frames ∈ operations.filterMap FramedOperation.request, request.IsOf frames
  received : ∀ timeout frames network,
    conversation.parley.peer.receiveFrames Network.fabric timeout conversation.parley.network =
        (.ok (some frames), network) →
      frames ∈ operations.filterMap FramedOperation.request
  settles : ∀ fuel frames timeout, conversation.parley.script.length < fuel →
    (conversation.client.exchange Parley.fabric fuel frames timeout
      conversation.parley).isSome = true
  exchanged : ∀ fuel frames timeout result client after,
    conversation.client.exchange Parley.fabric fuel frames timeout conversation.parley =
        some (result, client, after) →
      ∃ during, conversation.Exchanged frames result ⟨client, after⟩ during

/--
Whatever happens to a framed client, it is ready for the next request between
its exchanges, and what its peer reads is what one exchange was asked to send.
An exchange returns, and it replaces its socket exactly if the socket was ready
and no reply was read, and then once.
-/
theorem never_stuck {conversation : FramedConversation} (begins : conversation.Begins)
    {operations : List FramedOperation} {reached : FramedConversation}
    (ran : run operations conversation = some reached) : reached.IsUnstuck operations := by
  obtain ⟨deeds, reaches, sent⟩ := begins.rests.run ran
  have rests := reaches.rests
  have sublist := begins.requests_sublist reaches sent
  constructor
  case isReady => exact rests.isReadyIn
  case requests => exact sublist
  case taken =>
    intro socket request member
    obtain ⟨later, earlier, split⟩ := List.append_of_mem member
    have orderly := rests.attends.concord.orderly
    rw [split] at orderly
    obtain ⟨frames, asked, isOf⟩ := orderly.of_append.1
    refine ⟨frames, mem_of_asked sublist ?_ asked, isOf⟩
    rw [split]
    exact (List.suffix_cons _ _).trans (List.suffix_append _ _)
  case received =>
    intro timeout frames network received
    obtain ⟨sender, asked, isAsked, isOf⟩ :=
      rests.attends.asked_of_received Network.takes_receiveFrames received
    have same : frames = asked := isOf
    rw [same]
    exact mem_of_asked sublist (List.suffix_refl _) isAsked
  case settles =>
    intro fuel frames timeout enough
    exact reached.exchange_settles frames timeout enough
  case exchanged =>
    intro fuel frames timeout result client after returned
    exact rests.exchanged returned

end FramedConversation

namespace RefusedFrame

/-- A client whose fourth step is refused, and its peer, which answers just before the tenth. -/
def conversation : FramedConversation where
  client := ⟨{ role := .requester, endpoint := ⟨"localhost", 5555⟩ }⟩
  parley :=
    { peer := ⟨{ role := .responder, endpoint := ⟨"*", 5555⟩ }⟩
      script := List.replicate 3 {} ++ { fault := some .wouldBlock } :: List.replicate 5 {} ++
        [{ moves := [.receiveFrames none, .sendFrames [statusDone, ⟨#[4]⟩]] }] }

def operations : List FramedOperation :=
  [.peer (.manage .start), .manage .start,
    .exchange 11 [⟨#[1]⟩, ⟨#[2]⟩] (.ofMillis 100), .exchange 11 [⟨#[3]⟩] (.ofMillis 100)]

end RefusedFrame

open RefusedFrame in
/-- The frame that had left is lost with its socket, and only the second request is sent. -/
theorem FramedConversation.never_stuck_after_refused_frame :
    conversation.Begins ∧
      ∃ reached, run operations conversation = some reached ∧
        reached.client.lifecycle.isLive = true ∧
        reached.client.lifecycle.IsReadyIn reached.parley ∧
        reached.parley.requests = [[⟨#[3]⟩]] ∧ reached.IsUnstuck operations := by
  have begins : conversation.Begins :=
    ⟨⟨{ endpoint := ⟨"localhost", 5555⟩ }, none, rfl⟩,
      ⟨⟨{ endpoint := ⟨"*", 5555⟩ }, none, rfl⟩, rfl, rfl⟩⟩
  have runs : ((run operations conversation).map fun reached =>
      (reached.client.lifecycle.isLive, reached.parley.requests)) = some (true, [[⟨#[3]⟩]]) := by
    decide +kernel
  obtain ⟨reached, ran, found⟩ := Option.map_eq_some_iff.mp runs
  obtain ⟨live, sent⟩ := Prod.mk.inj found
  have unstuck := never_stuck begins ran
  exact ⟨begins, reached, ran, live, unstuck.isReady live, sent, unstuck⟩

end TaskLink
