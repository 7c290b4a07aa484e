import TaskLink.Messaging.FramedRequester
import TaskLink.Proofs.Messaging.ParleyRecovery
import TaskLink.Proofs.Messaging.ParleyScript

/-!
# Exchanges of the framed client

Whatever an exchange meets on its way, the client rests when it returns: once
a request may have left, a failure replaces the socket, and a reply that was
read leaves it ready.
-/

namespace TaskLink

/-! ## What an exchange does -/

/--
What an exchange comes to, which client it leaves, and what the client did in
it, the latest first.  What was sent is told as refused or as transmitted whole.
-/
inductive ExchangeTrace (client : FramedRequester) (frames : List ByteArray) :
    Except LinkError (List ByteArray) → FramedRequester → List ParleyEvent → Prop where
  /-- Nothing was asked for, there was no socket, or it was not found ready to send. -/
  | shut {error : LinkError} : ExchangeTrace client frames (.error error) client []
  /-- A frame was refused or no reply was read, and the socket was replaced. -/
  | replaced {error : LinkError} {socket fresh : SocketId} {sent : ParleyEvent}
      {after : FramedRequester} (isSocket : client.lifecycle.socket = some socket)
      (left : sent = .declined socket ∨ sent = .transmitted socket frames)
      (opened : after.lifecycle.socket = some fresh) :
      ExchangeTrace client frames (.error error) after
        [.opened fresh, sent, .admitted socket]
  /-- The socket should have been replaced, but no other could be opened. -/
  | lost {error : LinkError} {socket : SocketId} {sent : ParleyEvent} {after : FramedRequester}
      (isSocket : client.lifecycle.socket = some socket)
      (left : sent = .declined socket ∨ sent = .transmitted socket frames)
      (emptied : after.lifecycle.socket = none) :
      ExchangeTrace client frames (.error error) after
        [.openingFailed, sent, .admitted socket]
  /-- A whole reply was read, whatever its status. -/
  | answered {socket : SocketId} {reply : List ByteArray}
      (isSocket : client.lifecycle.socket = some socket) :
      ExchangeTrace client frames (splitStatus reply) client
        [.replied socket, .transmitted socket frames, .admitted socket]

namespace ParleyEvent

/-- The frames of a request that has been sent. -/
def request : ParleyEvent → Option (List ByteArray)
  | .transmitted _ frames => some frames
  | _ => none

def isAdmission : ParleyEvent → Bool
  | .admitted _ => true
  | _ => false

def isOpening : ParleyEvent → Bool
  | .opened _ | .openingFailed => true
  | _ => false

def isReply : ParleyEvent → Bool
  | .replied _ => true
  | _ => false

/-- Whether an exchange found its socket ready and then read no reply. -/
def failsLate (deeds : List ParleyEvent) : Bool :=
  deeds.any isAdmission && !deeds.any isReply

end ParleyEvent

namespace ExchangeTrace

variable {client after : FramedRequester} {frames : List ByteArray}
  {result : Except LinkError (List ByteArray)} {deeds : List ParleyEvent}

/-- An exchange sends nothing but its frames, and those once. -/
theorem requests (trace : ExchangeTrace client frames result after deeds) :
    (deeds.filterMap ParleyEvent.request).Sublist [frames] := by
  cases trace with
  | shut => exact List.nil_sublist _
  | replaced isSocket left opened =>
      rcases left with rfl | rfl
      · exact List.nil_sublist _
      · exact List.Sublist.refl _
  | lost isSocket left emptied =>
      rcases left with rfl | rfl
      · exact List.nil_sublist _
      · exact List.Sublist.refl _
  | answered isSocket => exact List.Sublist.refl _

/-- The socket is replaced once if it was ready and no reply was read, and else never. -/
theorem openings (trace : ExchangeTrace client frames result after deeds) :
    deeds.countP ParleyEvent.isOpening = if ParleyEvent.failsLate deeds then 1 else 0 := by
  cases trace with
  | shut => rfl
  | replaced isSocket left opened => rcases left with rfl | rfl <;> rfl
  | lost isSocket left emptied => rcases left with rfl | rfl <;> rfl
  | answered isSocket => rfl

/-- The client loses its socket only if no other could be opened. -/
theorem isLive (trace : ExchangeTrace client frames result after deeds)
    (unfailing : .openingFailed ∉ deeds) : after.lifecycle.isLive = client.lifecycle.isLive := by
  cases trace with
  | shut => rfl
  | replaced isSocket left opened =>
      rw [Lifecycle.isLive, Lifecycle.isLive, isSocket, opened]
      rfl
  | lost isSocket left emptied => exact absurd List.mem_cons_self unfailing
  | answered isSocket => rfl

end ExchangeTrace

namespace Parley

variable {parley after : Parley} {id : SocketId} {held : Option (SocketId × Stand)}

/-- Waiting polls for some time, and is over unless that was interrupted. -/
theorem awaitReady_cases (id : SocketId) (readiness : Readiness) (deadline : Option Deadline)
    (fuel : Nat) (parley : Parley) :
    ∃ wait,
      (∃ middle, fabric.poll id readiness wait parley = (.error .interrupted, middle) ∧
        FramedRequester.awaitReady fabric id readiness deadline (fuel + 1) parley =
          FramedRequester.awaitReady fabric id readiness deadline fuel middle) ∨
      FramedRequester.awaitReady fabric id readiness deadline (fuel + 1) parley =
        some (fabric.poll id readiness wait parley) := by
  generalize waiting :
    FramedRequester.awaitReady fabric id readiness deadline (fuel + 1) parley = waited
  unfold FramedRequester.awaitReady at waiting
  dsimp only at waiting
  split at waiting
  · next middle polling => exact ⟨_, Or.inl ⟨middle, polling, waiting.symm⟩⟩
  · exact ⟨_, Or.inr waiting.symm⟩

/-- Waiting until a socket is ready leaves the client where it stands. -/
theorem awaitReady_leads (attends : parley.Attends held) {readiness : Readiness}
    {deadline : Option Deadline} {fuel : Nat} {result : Except SocketFault Bool}
    (returned : FramedRequester.awaitReady fabric id readiness deadline fuel parley =
      some (result, after)) :
    parley.Leads held (admittance id readiness result) after := by
  induction fuel generalizing parley with
  | zero => cases returned
  | succ fuel ih =>
      obtain ⟨wait, polls⟩ := awaitReady_cases id readiness deadline fuel parley
      have polled := attends.poll id readiness wait
      rcases polls with ⟨middle, polling, again⟩ | settled
      · rw [polling] at polled
        rw [again] at returned
        have interrupted : parley.Leads held [] middle := polled
        exact interrupted.then (ih interrupted.attends returned)
      · rw [settled] at returned
        rwa [Option.some.inj returned] at polled

/-- A reply is read whole, and then it is the peer's answer, or it is not read. -/
theorem awaitFrames_leads (attends : parley.Attends (some (id, .awaiting))) {fuel : Nat}
    {timeout : Duration} {deadline : Option Deadline}
    {result : Except LinkError (List ByteArray)}
    (returned : FramedRequester.awaitFrames fabric fuel timeout deadline id parley =
      some (result, after)) :
    (∃ error stand, result = .error error ∧ parley.Leads (some (id, stand)) [] after) ∨
    (∃ reply, result = .ok reply ∧
      parley.Leads (some (id, .ready [])) [.replied id] after ∧
      ParleyEvent.progress id after.history = .answered reply) := by
  unfold FramedRequester.awaitFrames at returned
  cases waiting : FramedRequester.awaitReady fabric id .readable deadline fuel parley with
  | none =>
      rw [waiting] at returned
      cases returned
  | some waited =>
      obtain ⟨outcome, middle⟩ := waited
      have polled := awaitReady_leads attends waiting
      rw [waiting] at returned
      cases outcome with
      | error fault =>
          cases returned
          exact Or.inl ⟨_, _, rfl, polled⟩
      | ok ready =>
          cases ready with
          | false =>
              cases returned
              exact Or.inl ⟨_, _, rfl, polled⟩
          | true =>
              have waited : parley.Leads (some (id, .awaiting)) [] middle := polled
              have reads := waited.attends.receiveFrames
              dsimp only at returned
              cases received : fabric.receiveFrames id middle with
              | mk outcome last =>
                  rw [received] at reads returned
                  cases reads with
                  | failed leads =>
                      cases returned
                      exact Or.inl ⟨_, _, rfl, waited.then leads⟩
                  | whole leads answered =>
                      cases returned
                      exact Or.inr ⟨_, rfl, waited.then leads, answered⟩

/-- The frames leave and a reply is read, or the socket is left at some stand. -/
theorem exchangeFrames_leads (attends : parley.Attends (some (id, .ready []))) {fuel : Nat}
    {first : ByteArray} {rest : List ByteArray} {timeout : Duration}
    {deadline : Option Deadline} {result : Except LinkError (List ByteArray)}
    (returned : FramedRequester.exchangeFrames fabric fuel (first :: rest) timeout deadline id
      parley = some (result, after)) :
    (∃ error stand sent, result = .error error ∧
      (sent = .declined id ∨ sent = .transmitted id (first :: rest)) ∧
      parley.Leads (some (id, stand)) [sent] after) ∨
    (∃ reply, result = .ok reply ∧
      parley.Leads (some (id, .ready []))
        [.replied id, .transmitted id (first :: rest)] after ∧
      ParleyEvent.progress id after.history = .answered reply) := by
  unfold FramedRequester.exchangeFrames at returned
  rcases attends.sendFrames first rest with
    ⟨fault, sent, middle, refused, leads⟩ | ⟨middle, accepted, leads⟩
  · rw [refused] at returned
    cases returned
    exact Or.inl ⟨_, _, _, rfl, Or.inl rfl, leads⟩
  · rw [accepted] at returned
    dsimp only at returned
    split at returned
    · cases returned
      exact Or.inl ⟨_, _, _, rfl, Or.inr rfl, leads⟩
    · rcases awaitFrames_leads leads.attends returned with
        ⟨error, stand, rfl, waits⟩ | ⟨reply, rfl, reads, answered⟩
      · exact Or.inl ⟨error, stand, _, rfl, Or.inr rfl, leads.trans waits⟩
      · exact Or.inr ⟨reply, rfl, leads.trans reads, answered⟩

/-! ## An end to the waiting -/

/-- Waiting comes to an end if no more polls can be interrupted than it makes. -/
theorem awaitReady_settles (id : SocketId) (readiness : Readiness) (deadline : Option Deadline)
    {fuel : Nat} {parley : Parley} (enough : parley.script.length < fuel) :
    ∃ result after, FramedRequester.awaitReady fabric id readiness deadline fuel parley =
      some (result, after) ∧ after.script.length ≤ parley.script.length := by
  induction fuel generalizing parley with
  | zero => exact absurd enough (Nat.not_lt_zero _)
  | succ fuel ih =>
      obtain ⟨wait, polls⟩ := awaitReady_cases id readiness deadline fuel parley
      have shorter := poll_script id readiness wait parley
      rcases polls with ⟨middle, polling, again⟩ | settled
      · have nonempty := script_ne_nil_of_interrupted polling
        rw [polling] at shorter
        have positive := List.length_pos_iff.mpr nonempty
        have lasting : middle.script.length = parley.script.length - 1 := by
          rw [shorter, List.length_tail]
        have left : middle.script.length < fuel := by omega
        obtain ⟨result, after, settled, fewer⟩ := ih left
        exact ⟨result, after, again.trans settled, by omega⟩
      · refine ⟨(fabric.poll id readiness wait parley).1, (fabric.poll id readiness wait parley).2,
          settled, ?_⟩
        rw [shorter, List.length_tail]
        exact Nat.sub_le _ _

theorem exchangeFrames_settles (id : SocketId) (frames : List ByteArray) (timeout : Duration)
    (deadline : Option Deadline) {fuel : Nat} {parley : Parley}
    (enough : parley.script.length < fuel) :
    (FramedRequester.exchangeFrames fabric fuel frames timeout deadline id parley).isSome =
      true := by
  have sending := sendFrames_script id frames parley
  unfold FramedRequester.exchangeFrames FramedRequester.awaitFrames
  cases sent : fabric.sendFrames id frames parley with
  | mk result middle =>
      rw [sent] at sending
      obtain ⟨ready, after, waited, -⟩ :=
        awaitReady_settles id .readable deadline (Nat.lt_of_le_of_lt sending enough)
      cases result with
      | error fault => rfl
      | ok done =>
          dsimp only
          rw [waited]
          split
          · rfl
          · cases ready with
            | error fault => rfl
            | ok ready =>
                cases ready with
                | false => rfl
                | true =>
                    dsimp only
                    split <;> rfl

end Parley

/-! ## Whole exchanges -/

def Parley.ReadsAnswer (before : Parley) (result : Except LinkError (List ByteArray))
    (deeds : List ParleyEvent) (after : Parley) : Prop :=
  ∀ id, .replied id ∈ deeds → ∃ reply, result = splitStatus reply ∧
    before.Leads (some (id, .ready [])) deeds after ∧
    ParleyEvent.progress id after.history = .answered reply

/-- Where a client stands that has sent nothing over its socket, or has none. -/
def Stand.unused (socket : Option SocketId) : Option (SocketId × Stand) :=
  socket.map fun id => (id, .ready [])

theorem Stand.fst_unused (socket : Option SocketId) : (unused socket).map Prod.fst = socket := by
  rw [unused, Option.map_map]
  exact Option.map_id'

structure FramedConversation where
  client : FramedRequester
  parley : Parley

namespace FramedConversation

/-- Between exchanges a socket that is live awaits no reply, and has sent no part of a request. -/
structure Rests (conversation : FramedConversation) : Prop where
  attends : conversation.parley.Attends (Stand.unused conversation.client.lifecycle.socket)
  role : conversation.client.lifecycle.role = .requester

structure Reaches (before after : FramedConversation) (deeds : List ParleyEvent) : Prop where
  rests : after.Rests
  deeds_eq : after.parley.deeds = deeds ++ before.parley.deeds

variable {conversation : FramedConversation}

theorem Rests.isReadyIn (rests : conversation.Rests)
    (live : conversation.client.lifecycle.isLive = true) :
    conversation.client.lifecycle.IsReadyIn conversation.parley := by
  obtain ⟨id, socket⟩ := Option.isSome_iff_exists.mp live
  have attends := rests.attends
  rw [socket] at attends
  exact Lifecycle.isReadyIn_of_attends attends socket

/-- A client that has kept its socket rests if nothing is open on it. -/
theorem Rests.remains (rests : conversation.Rests) {id : SocketId}
    (isSocket : conversation.client.lifecycle.socket = some id) {deeds : List ParleyEvent}
    {after : Parley} (leads : conversation.parley.Leads (some (id, .ready [])) deeds after) :
    conversation.Reaches ⟨conversation.client, after⟩ deeds := by
  refine ⟨⟨?_, rests.role⟩, leads.deeds_eq⟩
  rw [isSocket]
  exact leads.attends

theorem reaches_of_opens {parley after : Parley} {lifecycle opened : Lifecycle}
    {result : Except LinkError SocketId} {held : Option (SocketId × Stand)}
    {deeds : List ParleyEvent} (led : conversation.parley.Leads held deeds parley)
    (opens : parley.Opens lifecycle result opened after) :
    (∃ fresh, opened.socket = some fresh ∧
      conversation.Reaches ⟨⟨opened⟩, after⟩ (.opened fresh :: deeds)) ∨
    (opened.socket = none ∧
      conversation.Reaches ⟨⟨opened⟩, after⟩ (.openingFailed :: deeds)) := by
  cases opens with
  | @ready fresh _ _ socket role resends leads =>
      have whole := led.trans leads
      refine Or.inl ⟨fresh, socket, ⟨⟨?_, role⟩, whole.deeds_eq⟩⟩
      rw [socket]
      exact whole.attends
  | failed socket role resends leads =>
      have whole := led.trans leads
      refine Or.inr ⟨socket, ⟨⟨?_, role⟩, whole.deeds_eq⟩⟩
      rw [socket]
      exact whole.attends

/-- A failure on a socket that was ready replaces it. -/
theorem replaces {id : SocketId} {stand : Stand} {sent : ParleyEvent} {frames : List ByteArray}
    {middle after : Parley} {lifecycle recovered : Lifecycle} (error : LinkError)
    (isSocket : conversation.client.lifecycle.socket = some id)
    (left : sent = .declined id ∨ sent = .transmitted id frames)
    (leads : conversation.parley.Leads (some (id, stand)) [sent, .admitted id] middle)
    (replaced : lifecycle.recover Parley.fabric middle = (recovered, after))
    (role : lifecycle.role = .requester) (socket : lifecycle.socket = some id) :
    ∃ deeds, ExchangeTrace conversation.client frames (.error error) ⟨recovered⟩ deeds ∧
      conversation.Reaches ⟨⟨recovered⟩, after⟩ deeds ∧
      conversation.parley.ReadsAnswer (.error error) deeds after := by
  obtain ⟨result, opens⟩ := lifecycle.recover_opens role leads.attends socket.symm
  rw [replaced] at opens
  rcases reaches_of_opens leads opens with ⟨fresh, opened, reaches⟩ | ⟨emptied, reaches⟩
  · refine ⟨_, .replaced isSocket left opened, reaches, fun other isReply => ?_⟩
    rcases left with rfl | rfl <;> simp at isReply
  · refine ⟨_, .lost isSocket left emptied, reaches, fun other isReply => ?_⟩
    rcases left with rfl | rfl <;> simp at isReply

/-- What becomes of a request that a socket was ready for. -/
theorem Rests.conclude (rests : conversation.Rests) {id : SocketId}
    (isSocket : conversation.client.lifecycle.socket = some id) {middle last after : Parley}
    (admitted : conversation.parley.Leads (some (id, .ready [])) [.admitted id] middle)
    {fuel : Nat} {first : ByteArray} {rest : List ByteArray} {timeout : Duration}
    {deadline : Option Deadline} {outcome result : Except LinkError (List ByteArray)}
    {lifecycle : Lifecycle}
    (exchanged : FramedRequester.exchangeFrames Parley.fabric fuel (first :: rest) timeout
      deadline id middle = some (outcome, last))
    (concluded : FramedRequester.conclude Parley.fabric conversation.client.lifecycle last
      outcome = (result, lifecycle, after)) :
    ∃ deeds, ExchangeTrace conversation.client (first :: rest) result ⟨lifecycle⟩ deeds ∧
      conversation.Reaches ⟨⟨lifecycle⟩, after⟩ deeds ∧
      conversation.parley.ReadsAnswer result deeds after := by
  unfold FramedRequester.conclude at concluded
  rcases Parley.exchangeFrames_leads admitted.attends exchanged with
    ⟨error, stand, sent, rfl, left, leads⟩ | ⟨reply, rfl, leads, answered⟩
  · obtain ⟨rfl, replaced⟩ := Prod.mk.inj concluded
    exact replaces error isSocket left (admitted.trans leads) replaced rests.role isSocket
  · cases concluded
    have whole := admitted.trans leads
    refine ⟨_, .answered isSocket, rests.remains isSocket whole, fun other isReply => ?_⟩
    obtain rfl : other = id := by simpa using isReply
    exact ⟨reply, rfl, whole, answered⟩

theorem Rests.exchangeOver (rests : conversation.Rests) {id : SocketId}
    (isSocket : conversation.client.lifecycle.socket = some id) {fuel : Nat} {first : ByteArray}
    {rest : List ByteArray} {timeout : Duration} {result : Except LinkError (List ByteArray)}
    {lifecycle : Lifecycle} {after : Parley}
    (returned : FramedRequester.exchangeOver Parley.fabric fuel (first :: rest) timeout id
      conversation.client.lifecycle conversation.parley = some (result, lifecycle, after)) :
    ∃ deeds, ExchangeTrace conversation.client (first :: rest) result ⟨lifecycle⟩ deeds ∧
      conversation.Reaches ⟨⟨lifecycle⟩, after⟩ deeds ∧
      conversation.parley.ReadsAnswer result deeds after := by
  have attends := rests.attends
  rw [isSocket] at attends
  unfold FramedRequester.exchangeOver at returned
  dsimp only at returned
  cases waiting : FramedRequester.awaitReady Parley.fabric id .writable
      (Parley.fabric.deadline timeout conversation.parley) fuel conversation.parley with
  | none =>
      rw [waiting] at returned
      cases returned
  | some waited =>
      obtain ⟨outcome, middle⟩ := waited
      have polled := Parley.awaitReady_leads attends waiting
      rw [waiting] at returned
      cases outcome with
      | error fault =>
          cases returned
          exact ⟨[], .shut, rests.remains isSocket polled, nofun⟩
      | ok ready =>
          cases ready with
          | false =>
              cases returned
              exact ⟨[], .shut, rests.remains isSocket polled, nofun⟩
          | true =>
              obtain ⟨⟨outcome, last⟩, exchanged, same⟩ := Option.map_eq_some_iff.mp returned
              exact rests.conclude isSocket polled exchanged same

theorem Rests.exchange (rests : conversation.Rests) {fuel : Nat} {frames : List ByteArray}
    {timeout : Duration} {result : Except LinkError (List ByteArray)} {client : FramedRequester}
    {after : Parley}
    (returned : conversation.client.exchange Parley.fabric fuel frames timeout
      conversation.parley = some (result, client, after)) :
    ∃ deeds, ExchangeTrace conversation.client frames result client deeds ∧
      conversation.Reaches ⟨client, after⟩ deeds ∧
      conversation.parley.ReadsAnswer result deeds after := by
  unfold FramedRequester.exchange Lifecycle.live at returned
  cases frames with
  | nil =>
      cases returned
      exact ⟨[], .shut, ⟨rests, rfl⟩, nofun⟩
  | cons first rest =>
      rw [List.isEmpty_cons, if_neg Bool.false_ne_true] at returned
      cases isSocket : conversation.client.lifecycle.socket with
      | none =>
          rw [isSocket] at returned
          cases returned
          exact ⟨[], .shut, ⟨rests, rfl⟩, nofun⟩
      | some id =>
          rw [isSocket] at returned
          obtain ⟨⟨result, lifecycle, last⟩, exchanged, same⟩ := Option.map_eq_some_iff.mp returned
          cases same
          exact rests.exchangeOver isSocket exchanged

theorem exchange_nil {fuel : Nat} {timeout : Duration} {client : FramedRequester}
    {result : Except LinkError (List ByteArray)} {after : Parley}
    (returned : conversation.client.exchange Parley.fabric fuel [] timeout conversation.parley =
      some (result, client, after)) :
    client = conversation.client ∧ after = conversation.parley := by
  cases returned
  exact ⟨rfl, rfl⟩

/-- An exchange returns if no more polls can be interrupted than its fuel allows. -/
theorem exchange_settles (conversation : FramedConversation) {fuel : Nat}
    (frames : List ByteArray) (timeout : Duration)
    (enough : conversation.parley.script.length < fuel) :
    (conversation.client.exchange Parley.fabric fuel frames timeout conversation.parley).isSome =
      true := by
  unfold FramedRequester.exchange
  split
  · rfl
  · split
    · rfl
    · next socket live =>
        rw [Option.isSome_map]
        obtain ⟨ready, middle, waited, fewer⟩ := Parley.awaitReady_settles socket .writable
          (Parley.fabric.deadline timeout conversation.parley) enough
        unfold FramedRequester.exchangeOver
        dsimp only
        rw [waited]
        cases ready with
        | error fault => rfl
        | ok ready =>
            cases ready with
            | false => rfl
            | true =>
                dsimp only
                rw [Option.isSome_map]
                exact Parley.exchangeFrames_settles socket frames timeout _
                  (Nat.lt_of_le_of_lt fewer enough)

end FramedConversation

end TaskLink
