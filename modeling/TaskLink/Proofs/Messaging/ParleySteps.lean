import TaskLink.Proofs.Messaging.ParleyInvariant

/-!
# Steps of a client and its peer

What each thing that the peer does, and each thing that the client asks of the
library, makes of the surroundings.  The invariant is kept by all of them; the
client's own steps are also told apart by what the client did.
-/

namespace TaskLink

namespace Parley

/-! ## Leading on -/

/-- Client and peer agree, and the peer is a server. -/
structure Attends (parley : Parley) (held : Option (SocketId × Stand)) : Prop where
  concord : Concord held parley.served parley.network parley.history
  role : parley.peer.lifecycle.role = .responder

/-- Steps that lead to a stand of the client, and what the client did in them. -/
structure Leads (before : Parley) (held : Option (SocketId × Stand)) (deeds : List ParleyEvent)
    (after : Parley) : Prop where
  attends : after.Attends held
  deeds_eq : after.deeds = deeds ++ before.deeds
  history_suffix : before.history <:+ after.history

variable {held : Option (SocketId × Stand)} {before middle after parley : Parley}

theorem Attends.leads (attends : parley.Attends held) : parley.Leads held [] parley :=
  ⟨attends, rfl, List.suffix_refl _⟩

theorem Leads.trans {held' : Option (SocketId × Stand)} {deeds later : List ParleyEvent}
    (first : before.Leads held deeds middle) (second : middle.Leads held' later after) :
    before.Leads held' (later ++ deeds) after where
  attends := second.attends
  deeds_eq := by rw [second.deeds_eq, first.deeds_eq, List.append_assoc]
  history_suffix := first.history_suffix.trans second.history_suffix

/-- The steps after some that the client did nothing in. -/
theorem Leads.then {held' : Option (SocketId × Stand)} {deeds : List ParleyEvent}
    (first : before.Leads held [] middle) (second : middle.Leads held' deeds after) :
    before.Leads held' deeds after := by
  have both := first.trans second
  rwa [List.append_nil] at both

theorem Attends.of_network (attends : parley.Attends held) {held' : Option (SocketId × Stand)}
    {network : Network} (concord : Concord held' parley.served network parley.history) :
    parley.Leads held' [] { parley with network := network } where
  attends := ⟨concord, attends.role⟩
  deeds_eq := rfl
  history_suffix := List.suffix_refl _

theorem Attends.of_alike (attends : parley.Attends held) {network : Network}
    (alike : Network.Alike parley.network network) :
    parley.Leads held [] { parley with network := network } :=
  attends.of_network (attends.concord.of_alike alike)

theorem Leads.note {deeds : List ParleyEvent} (leads : before.Leads held deeds after)
    {event : ParleyEvent} (silent : event.IsSilent) :
    before.Leads held (event :: deeds) (after.note event) where
  attends := ⟨leads.attends.concord.of_silent silent, leads.attends.role⟩
  deeds_eq := by
    have isClients : event.isClients = true := by
      cases event <;> first | rfl | exact silent.elim
    have deeds_eq := leads.deeds_eq
    unfold Parley.deeds at deeds_eq ⊢
    rw [Parley.note, List.filter_cons_of_pos isClients, deeds_eq]
    rfl
  history_suffix := leads.history_suffix.trans (List.suffix_cons _ _)

end Parley

/-! ## Requests are taken whole -/

namespace Network

/-- A way to read either fails and leaves everything, or takes the next message of a socket. -/
def Takes {α : Type} (read : SocketId → Network → Except SocketFault α × Network)
    (reading : α → Reading) : Prop :=
  ∀ id network,
    (∃ fault, read id network = (.error fault, network)) ∨
    (∃ socket parcel later request after, network.find? id = some socket ∧
      socket.inbox = parcel :: later ∧ read id network = (.ok request, after) ∧
      Replaces network after id (afterMessage socket parcel later) ∧
      (reading request).IsOf parcel.frames)

theorem Takes.of_error {α : Type} {read : SocketId → Network → Except SocketFault α × Network}
    {reading : α → Reading} (takes : Takes read reading) {id : SocketId} {network after : Network}
    {fault : SocketFault} (failed : read id network = (.error fault, after)) :
    after = network := by
  rcases takes id network with
    ⟨other, same⟩ | ⟨socket, parcel, later, request, taken, -, -, took, -⟩
  · rw [failed] at same
    cases same
    rfl
  · rw [failed] at took
    cases took

theorem Takes.of_ok {α : Type} {read : SocketId → Network → Except SocketFault α × Network}
    {reading : α → Reading} (takes : Takes read reading) {id : SocketId} {network after : Network}
    {request : α} (took : read id network = (.ok request, after)) :
    ∃ socket parcel later, network.find? id = some socket ∧ socket.inbox = parcel :: later ∧
      Replaces network after id (afterMessage socket parcel later) ∧
      (reading request).IsOf parcel.frames := by
  rcases takes id network with
    ⟨fault, failed⟩ | ⟨socket, parcel, later, other, taken, found, inbox, same, replaces, isOf⟩
  · rw [took] at failed
    cases failed
  · rw [took] at same
    cases same
    exact ⟨socket, parcel, later, found, inbox, replaces, isOf⟩

theorem takes_receiveFrames : Takes fabric.receiveFrames .apart := by
  intro id network
  rcases receive_cases network id with
    ⟨fault, failed⟩ | ⟨socket, parcel, later, usable, turn, inbox⟩
  · refine Or.inl ⟨fault, ?_⟩
    have failed' : fabric.receive id network = (.error fault, network) := failed
    rw [Fabric.receiveFrames, failed']
  · obtain ⟨after, read, replaces⟩ := receiveFrames_eq usable turn inbox
    exact Or.inr ⟨socket, parcel, later, _, after, (usable_eq_ok_iff.mp usable).1, inbox, read,
      replaces, rfl⟩

theorem takes_receiveJoined : Takes fabric.receiveJoined .joined := by
  intro id network
  rcases takes_receiveFrames id network with
    ⟨fault, failed⟩ | ⟨socket, parcel, later, request, after, found, inbox, read, replaces, isOf⟩
  · refine Or.inl ⟨fault, ?_⟩
    rw [Fabric.receiveJoined_eq, failed]
    rfl
  · refine Or.inr ⟨socket, parcel, later, joinFrames request, after, found, inbox, ?_, replaces, ?_⟩
    · rw [Fabric.receiveJoined_eq, read]
      rfl
    · have same : request = parcel.frames := isOf
      rw [same]
      rfl

theorem pollReadable_alike (network : Network) (id : SocketId) (wait : Wait) :
    Alike network (fabric.pollReadable id wait network).2 := by
  have alike := poll_alike network id .readable wait
  unfold Fabric.pollReadable
  cases polled : network.poll id .readable wait with
  | mk result after =>
      rw [polled] at alike
      have step : fabric.poll id .readable wait network = (result, after) := polled
      rw [step]
      cases result with
      | ok ready => exact alike
      | error fault => cases fault <;> exact alike

/-- Reading within a timeout reads at last, or comes to nothing. -/
theorem readWithin_cases {α : Type} (read : SocketId → Network → Except SocketFault α × Network)
    (timeout : Option Duration) (id : SocketId) (network : Network) :
    ∃ polled, Alike network polled ∧
      ((∃ request after, read id polled = (.ok request, after) ∧
          fabric.readWithin read timeout id network = (.ok (some request), after)) ∨
        ∃ result after, (∀ request, result ≠ .ok (some request)) ∧
          (after = polled ∨ ∃ fault, read id polled = (.error fault, after)) ∧
          fabric.readWithin read timeout id network = (result, after)) := by
  have now (polled : Network) (alike : Alike network polled)
      (same : fabric.readWithin read timeout id network = fabric.readWithin read none id polled) :
      ∃ polled, Alike network polled ∧
        ((∃ request after, read id polled = (.ok request, after) ∧
            fabric.readWithin read timeout id network = (.ok (some request), after)) ∨
          ∃ result after, (∀ request, result ≠ .ok (some request)) ∧
            (after = polled ∨ ∃ fault, read id polled = (.error fault, after)) ∧
            fabric.readWithin read timeout id network = (result, after)) := by
    refine ⟨polled, alike, ?_⟩
    rw [same]
    unfold Fabric.readWithin
    dsimp only
    cases outcome : read id polled with
    | mk result after =>
        cases result with
        | ok request => exact Or.inl ⟨request, after, rfl, rfl⟩
        | error fault =>
            cases fault <;>
              refine Or.inr ⟨_, after, ?_, Or.inr ⟨_, rfl⟩, rfl⟩ <;>
              rintro request ⟨⟩
  cases timeout with
  | none => exact now network (Alike.refl network) rfl
  | some wait =>
      have alike := pollReadable_alike network id (.lasting wait)
      cases polling : fabric.pollReadable id (.lasting wait) network with
      | mk result polled =>
          rw [polling] at alike
          cases result with
          | error fault =>
              refine ⟨polled, alike, Or.inr ⟨.error fault, polled, ?_, Or.inl rfl, ?_⟩⟩
              · rintro request ⟨⟩
              · rw [Fabric.readWithin]
                dsimp only
                rw [polling]
          | ok ready =>
              cases ready with
              | false =>
                  refine ⟨polled, alike, Or.inr ⟨.ok none, polled, ?_, Or.inl rfl, ?_⟩⟩
                  · rintro request ⟨⟩
                  · rw [Fabric.readWithin]
                    dsimp only
                    rw [polling]
              | true =>
                  refine now polled alike ?_
                  unfold Fabric.readWithin
                  dsimp only
                  rw [polling]

/-- A way to send either fails and leaves everything, or sends a whole message. -/
def Sends (use : SocketId → Network → Except SocketFault Unit × Network)
    (frames : List ByteArray) : Prop :=
  ∀ id network,
    (∃ fault, use id network = (.error fault, network)) ∨
    (∃ socket peer sent parcel, network.find? id = some socket ∧ socket.turn = .toSend peer ∧
      parcel.frames = socket.composed ++ frames ∧
      Replaces network sent id (afterSending socket) ∧
      use id network = (.ok (), (sent.dispatch socket parcel).tick))

theorem sends_send (frame : ByteArray) : Sends (fun id => fabric.send id frame false) [frame] := by
  intro id network
  rcases send_cases network id frame false with failed | ⟨socket, peer, usable, turn⟩
  · exact Or.inl failed
  · obtain ⟨sent, replaces, sending⟩ := send_last usable turn frame
    exact Or.inr ⟨socket, peer, sent, _, (usable_eq_ok_iff.mp usable).1, turn,
      frames_parcelOf id frame socket.composed, replaces, sending⟩

theorem sends_sendFrames (first : ByteArray) (rest : List ByteArray) :
    Sends (fun id => fabric.sendFrames id (first :: rest)) (first :: rest) := by
  intro id network
  rcases send_cases network id first (!rest.isEmpty) with
    ⟨fault, failed⟩ | ⟨socket, peer, usable, turn⟩
  · refine Or.inl ⟨fault, ?_⟩
    have failed' : fabric.send id first (!rest.isEmpty) network = (.error fault, network) := failed
    dsimp only
    rw [Fabric.sendFrames, failed']
  · obtain ⟨sent, parcel, -, frames, replaces, sending⟩ := sendFrames_eq usable turn first rest
    exact Or.inr ⟨socket, peer, sent, parcel, (usable_eq_ok_iff.mp usable).1, turn, frames,
      replaces, sending⟩

/-- Sockets of a responder are opened and closed without harm. -/
theorem keeps_concord (held : Option (SocketId × Stand)) (history : List ParleyEvent)
    (endpoint : Endpoint) (options : SocketOptions) :
    fabric.Keeps .responder endpoint options
      (fun served network => Concord held served network history) where
  closed _ _ concord := concord.close_served
  created _ network concord := concord.of_alike ⟨rfl, rfl, fun _ => rfl⟩
  opened context network concord := by
    rcases openSocket_cases network context .responder endpoint options with
      ⟨fault, failed⟩ | opened
    · have step : fabric.openSocket context .responder endpoint options network = _ := failed
      rw [step]
      exact concord
    · have step : fabric.openSocket context .responder endpoint options network = _ := opened
      rw [step]
      exact concord.open_served context endpoint

end Network

/-! ## The peer's moves -/

namespace Parley

variable {held : Option (SocketId × Stand)} {parley : Parley}

theorem addressee_of_find? {network : Network} {id : SocketId} {socket : NetworkSocket}
    {peer : Option SocketId} (found : network.find? id = some socket)
    (turn : socket.turn = .toSend peer) : addressee network (some id) = peer := by
  rw [addressee, Option.bind_some, found]
  dsimp only
  rw [turn]

/-- The peer reads a request, which can be told, or it reads none and changes nothing. -/
theorem Attends.receiving_cases {α : Type}
    {read : SocketId → Network → Except SocketFault α × Network} {reading : α → Reading}
    (attends : parley.Attends held) (takes : Network.Takes read reading)
    (timeout : Option Duration) :
    (∃ request after sender,
      parley.peer.lifecycle.receiving (Network.fabric.readWithin read timeout) parley.network =
          (.ok (some request), after) ∧
        addressee after parley.served = some sender ∧
        parley.Leads held []
          ({ parley with network := after }.note (.taken sender (reading request)))) ∨
    (∃ result after, (∀ request, result ≠ .ok (some request)) ∧
      parley.peer.lifecycle.receiving (Network.fabric.readWithin read timeout) parley.network =
          (result, after) ∧
        Network.Alike parley.network after) := by
  unfold Lifecycle.receiving Lifecycle.live
  cases isServed : parley.peer.lifecycle.socket with
  | none =>
      refine Or.inr ⟨_, _, ?_, rfl, Network.Alike.refl _⟩
      rintro request ⟨⟩
  | some id =>
      have concord := attends.concord
      rw [served, isServed] at concord
      dsimp only
      obtain ⟨polled, alike, outcome⟩ :=
        Network.readWithin_cases read timeout id parley.network
      rcases outcome with ⟨request, after, took, same⟩ | ⟨result, after, nothing, still, same⟩
      · obtain ⟨socket, parcel, later, found, inbox, replaces, isOf⟩ := takes.of_ok took
        obtain ⟨old, found', serves, -⟩ := (concord.of_alike alike).server id rfl
        rw [found] at found'
        cases found'
        refine Or.inl ⟨request, after, parcel.sender, ?_, ?_, ⟨?_, attends.role⟩, rfl,
          List.suffix_cons _ _⟩
        · rw [same]
        · rw [served, isServed]
          refine addressee_of_find? replaces.found ?_
          rw [Network.afterMessage, serves.1]
          rfl
        · change Concord held parley.served after
            (.taken parcel.sender (reading request) :: parley.history)
          rw [served, isServed]
          exact (concord.of_alike alike).take found inbox replaces isOf
      · have unread : Network.Alike parley.network after := by
          rcases still with rfl | ⟨fault, failed⟩
          · exact alike
          · rw [takes.of_error failed]
            exact alike
        rw [same]
        cases result with
        | error fault =>
            refine Or.inr ⟨_, after, ?_, rfl, unread⟩
            rintro request ⟨⟩
        | ok request =>
            refine Or.inr ⟨.ok request, after, ?_, rfl, unread⟩
            rintro request ⟨⟩
            exact nothing request rfl

theorem Attends.reading {α : Type} {read : SocketId → Network → Except SocketFault α × Network}
    {reading : α → Reading} (attends : parley.Attends held) (takes : Network.Takes read reading)
    (timeout : Option Duration) :
    parley.Leads held [] (parley.afterReading reading
      (parley.peer.lifecycle.receiving (Network.fabric.readWithin read timeout)
        parley.network)) := by
  rcases attends.receiving_cases takes timeout with
    ⟨request, after, sender, received, addressed, leads⟩ | ⟨result, after, nothing, same, alike⟩
  · have told : noteTaken { parley with network := after } (reading request) =
        { parley with network := after }.note (.taken sender (reading request)) := by
      have addressed' : addressee { parley with network := after }.network
          { parley with network := after }.served = some sender := addressed
      rw [noteTaken, addressed']
    rw [received, afterReading, told]
    exact leads
  · rw [same]
    cases result with
    | error fault => exact attends.of_alike alike
    | ok request =>
        cases request with
        | none => exact attends.of_alike alike
        | some request => exact absurd rfl (nothing request)

theorem Attends.asked_of_received {α : Type}
    {read : SocketId → Network → Except SocketFault α × Network} {reading : α → Reading}
    (attends : parley.Attends held) (takes : Network.Takes read reading)
    {timeout : Option Duration} {request : α} {after : Network}
    (received : parley.peer.lifecycle.receiving (Network.fabric.readWithin read timeout)
      parley.network = (.ok (some request), after)) :
    ∃ sender frames, ParleyEvent.progress sender parley.history = .asked frames ∧
      (reading request).IsOf frames := by
  rcases attends.receiving_cases takes timeout with
    ⟨request', after', sender, received', -, leads⟩ | ⟨result, after', nothing, same, -⟩
  · rw [received] at received'
    cases received'
    exact ⟨sender, leads.attends.concord.orderly.1⟩
  · rw [received] at same
    cases same
    exact absurd rfl (nothing request)

theorem Attends.answering {use : SocketId → Network → Except SocketFault Unit × Network}
    {frames : List ByteArray} (attends : parley.Attends held) (sends : Network.Sends use frames) :
    parley.Leads held [] (parley.afterAnswering frames
      (parley.peer.lifecycle.sending use parley.network)) := by
  unfold Lifecycle.sending Lifecycle.live
  cases isServed : parley.peer.lifecycle.socket with
  | none => exact attends.leads
  | some id =>
      have concord := attends.concord
      rw [served, isServed] at concord
      dsimp only
      rcases sends id parley.network with
        ⟨fault, failed⟩ | ⟨socket, peer, sent, parcel, found, turn, isFrames, replaces, sending⟩
      · rw [failed]
        exact attends.leads
      · obtain ⟨old, found', ⟨role, whole, -, owes⟩, -⟩ := concord.server id rfl
        rw [found] at found'
        cases found'
        obtain ⟨asker, rfl, -, -⟩ := owes peer turn
        have dispatched : sent.dispatch socket parcel = sent.deliver parcel asker := by
          rw [Network.dispatch, role, turn]
        have addressed : addressee parley.network parley.served = some asker := by
          rw [served, isServed]
          exact addressee_of_find? found turn
        rw [whole, List.nil_append] at isFrames
        subst isFrames
        rw [sending, dispatched]
        dsimp only [afterAnswering]
        rw [addressed]
        refine ⟨⟨?_, attends.role⟩, rfl, List.suffix_cons _ _⟩
        change Concord held parley.served (sent.deliver parcel asker).tick
          (.answered asker parcel.frames :: parley.history)
        rw [served, isServed]
        exact (concord.answer found turn replaces parcel).of_alike
          (Network.Alike.elapse _ Network.stepNanos)

end Parley

theorem PeerMove.perform_leads {held : Option (SocketId × Stand)} {parley : Parley}
    (attends : parley.Attends held) (move : PeerMove) :
    parley.Leads held [] (move.perform parley) := by
  cases move with
  | manage operation =>
      have kept := operation.perform_keeps
        (Network.keeps_concord held parley.history parley.peer.lifecycle.endpoint
          parley.peer.lifecycle.options)
        ⟨⟨attends.role, rfl, rfl⟩, attends.concord⟩
      exact ⟨⟨kept.2, kept.1.1⟩, rfl, List.suffix_refl _⟩
  | receive timeout => exact attends.reading Network.takes_receiveJoined timeout
  | receiveFrames timeout => exact attends.reading Network.takes_receiveFrames timeout
  | poll wait =>
      unfold perform Responder.poll Lifecycle.receiving Lifecycle.live
      dsimp only
      cases parley.peer.lifecycle.socket with
      | none => exact attends.leads
      | some id =>
          have alike := Network.pollReadable_alike parley.network id (.lasting wait)
          dsimp only
          cases polled : Network.fabric.pollReadable id (.lasting wait) parley.network with
          | mk result after =>
              rw [polled] at alike
              cases result <;> exact attends.of_alike alike
  | send reply => exact attends.answering (Network.sends_send reply)
  | sendFrames frames =>
      cases frames with
      | nil => exact attends.leads
      | cons first rest => exact attends.answering (Network.sends_sendFrames first rest)

/-! ## The client's steps -/

namespace Parley

variable {held : Option (SocketId × Stand)} {parley : Parley} {id : SocketId} {stand : Stand}

theorem Attends.moves (attends : parley.Attends held) (moves : List PeerMove) :
    parley.Leads held [] (moves.foldl (fun parley move => move.perform parley) parley) := by
  induction moves generalizing parley with
  | nil => exact attends.leads
  | cons move rest ih =>
      have first := move.perform_leads attends
      exact first.then (ih first.attends)

theorem Attends.pass (attends : parley.Attends held) : parley.Leads held [] parley.pass.2 := by
  unfold Parley.pass
  cases parley.script with
  | nil => exact attends.leads
  | cons interlude later =>
      have begun : parley.Leads held [] { parley with script := later } :=
        ⟨⟨attends.concord, attends.role⟩, rfl, List.suffix_refl _⟩
      have moved := begun.attends.moves interlude.moves
      exact (begun.then moved).then
        (moved.attends.of_alike (Network.Alike.elapse _ interlude.nanos))

theorem Attends.ask (attends : parley.Attends held) (bits : UInt32) :
    parley.Leads held [] (ask bits parley).2 := by
  unfold Parley.ask
  cases parley.answers with
  | nil => exact attends.leads
  | cons answer later => exact ⟨⟨attends.concord, attends.role⟩, rfl, List.suffix_refl _⟩

theorem Attends.newContext (attends : parley.Attends held) :
    parley.Leads held [] (fabric.newContext parley).2 :=
  attends.of_alike ⟨rfl, rfl, fun _ => rfl⟩

theorem Attends.closeSocket (attends : parley.Attends (some (id, stand))) :
    parley.Leads none [] (fabric.closeSocket id parley) := by
  have passed := attends.pass
  change parley.Leads none [] (Parley.closeSocket id parley)
  unfold Parley.closeSocket
  cases parts : parley.pass with
  | mk outcome before =>
      rw [parts] at passed
      exact passed.then (passed.attends.of_network passed.attends.concord.close_held)

/-- A socket is opened for the client, or the opening fails. -/
theorem Attends.openSocket (attends : parley.Attends none) (context : ContextId)
    (endpoint : Endpoint) (options : SocketOptions) :
    (∃ fault after, fabric.openSocket context .requester endpoint options parley =
        (.error fault, after) ∧ parley.Leads none [.openingFailed] after) ∨
    (∃ id after, fabric.openSocket context .requester endpoint options parley =
        (.ok id, after) ∧ parley.Leads (some (id, .ready [])) [.opened id] after) := by
  have passed := attends.pass
  change (∃ fault after, Parley.openSocket context .requester endpoint options parley =
      (.error fault, after) ∧ _) ∨
    (∃ id after, Parley.openSocket context .requester endpoint options parley =
      (.ok id, after) ∧ _)
  unfold Parley.openSocket
  cases parts : parley.pass with
  | mk interlude before =>
      rw [parts] at passed
      dsimp only
      cases interlude.fault with
      | some fault => exact Or.inl ⟨.create fault, _, rfl, passed.note trivial⟩
      | none =>
          dsimp only
          rcases Network.openSocket_cases before.network context .requester endpoint options with
            ⟨fault, failed⟩ | opened
          · rw [failed]
            exact Or.inl ⟨fault, _, rfl, passed.note trivial⟩
          · rw [opened]
            refine Or.inr ⟨_, _, rfl, Leads.note ?_ trivial⟩
            exact passed.then
              (passed.attends.of_network (passed.attends.concord.open_held context endpoint))

end Parley

namespace Stand

def refusal (id : SocketId) : Stand → List ParleyEvent
  | .ready _ => [.declined id]
  | .awaiting | .reading _ _ => []

/-- The frames of a reply that are read when the next one comes with this many behind it. -/
def HasRead (stand : Stand) (read : List ByteArray) (following : Nat) : Prop :=
  match stand with
  | .ready _ => False
  | .awaiting => read = []
  | .reading earlier left => earlier = read ∧ left = following + 1

theorem Fits.eq_ready {socket : NetworkSocket} {progress : Progress} {stand : Stand}
    {peer : Option SocketId} (fits : stand.Fits socket progress)
    (turn : socket.turn = .toSend peer) : stand = .ready socket.composed := by
  cases stand with
  | ready composed => rw [fits.2.1]
  | awaiting => cases turn.symm.trans fits.1
  | reading read left => cases turn.symm.trans fits.1

/-- The next message in the inbox of a client's socket is the rest of its reply. -/
theorem Fits.reply {socket : NetworkSocket} {progress : Progress} {stand : Stand}
    {parcel : Parcel} {later : List Parcel} (fits : stand.Fits socket progress)
    (inbox : socket.inbox = parcel :: later) :
    later = [] ∧ socket.composed = [] ∧
      ∃ read, stand.HasRead read parcel.following.length ∧
        progress = .answered (read ++ parcel.frames) := by
  cases stand with
  | ready composed => cases inbox.symm.trans fits.2.2.1
  | awaiting =>
      obtain ⟨-, whole, fills⟩ := fits
      rw [inbox] at fills
      cases progress with
      | idle => exact fills.elim
      | asked frames => cases fills
      | taken => cases fills
      | answered frames =>
          obtain ⟨reply, only, isReply⟩ := fills
          cases only
          exact ⟨rfl, whole, [], rfl, by rw [isReply, List.nil_append]⟩
  | reading read left =>
      obtain ⟨-, whole, reply, only, count, answered⟩ := fits
      cases inbox.symm.trans only
      exact ⟨rfl, whole, read, ⟨rfl, count.symm⟩, answered⟩

end Stand

namespace Parley

variable {parley : Parley} {id : SocketId} {stand : Stand}

theorem Attends.refusal (attends : parley.Attends (some (id, stand))) :
    parley.Leads (some (id, stand)) (stand.refusal id) (parley.noteRefusal id) := by
  obtain ⟨socket, found, -, fits⟩ := attends.concord.client id stand rfl
  rw [noteRefusal, found]
  dsimp only
  cases stand with
  | ready composed =>
      rw [if_pos]
      · exact attends.leads.note trivial
      · rw [NetworkSocket.isReady, bne_iff_ne]
        exact fits.1
  | awaiting =>
      rw [if_neg]
      · exact attends.leads
      · rw [NetworkSocket.isReady, fits.1]
        exact Bool.false_ne_true
  | reading read left =>
      rw [if_neg]
      · exact attends.leads
      · rw [NetworkSocket.isReady, fits.1]
        exact Bool.false_ne_true

/-- A frame is refused, or the socket was ready and took it. -/
theorem Attends.send (attends : parley.Attends (some (id, stand))) (frame : ByteArray)
    (more : Bool) :
    (∃ fault after, fabric.send id frame more parley = (.error fault, after) ∧
      parley.Leads (some (id, stand)) (stand.refusal id) after) ∨
    (∃ composed after, stand = .ready composed ∧
      fabric.send id frame more parley = (.ok (), after) ∧
      if more then parley.Leads (some (id, .ready (composed ++ [frame]))) [] after
      else parley.Leads (some (id, .awaiting)) [.transmitted id (composed ++ [frame])] after) := by
  have passed := attends.pass
  change (∃ fault after, Parley.send id frame more parley = (.error fault, after) ∧ _) ∨
    (∃ composed after, _ ∧ Parley.send id frame more parley = (.ok (), after) ∧ _)
  unfold Parley.send
  cases parts : parley.pass with
  | mk interlude before =>
      rw [parts] at passed
      have attends := passed.attends
      dsimp only at attends ⊢
      cases interlude.fault with
      | some fault => exact Or.inl ⟨fault, _, rfl, passed.then attends.refusal⟩
      | none =>
          dsimp only
          rcases Network.send_cases before.network id frame more with
            ⟨fault, failed⟩ | ⟨socket, peer, usable, turn⟩
          · rw [failed]
            exact Or.inl ⟨fault, _, rfl, passed.then attends.refusal⟩
          · have found := (Network.usable_eq_ok_iff.mp usable).1
            obtain ⟨old, found', role, fits⟩ := attends.concord.client id stand rfl
            rw [found] at found'
            cases found'
            have isReady := fits.eq_ready turn
            subst isReady
            cases more with
            | true =>
                obtain ⟨after, sending, replaces⟩ := Network.send_more usable turn frame
                rw [sending]
                refine Or.inr ⟨socket.composed, _, rfl, rfl, ?_⟩
                rw [if_pos rfl]
                refine passed.then (attends.of_network ?_)
                exact attends.concord.replace_held found replaces rfl rfl
                  ⟨fits.1, rfl, fits.2.2.1, fits.2.2.2⟩
            | false =>
                obtain ⟨sent, replaces, sending⟩ := Network.send_last usable turn frame
                have dispatched (parcel : Parcel) :
                    sent.dispatch socket parcel = sent.sendRequest socket.endpoint parcel := by
                  rw [Network.dispatch, role]
                have whole : before.composed id = socket.composed := by
                  rw [composed, found]
                rw [sending, dispatched]
                refine Or.inr ⟨socket.composed, _, rfl, rfl, ?_⟩
                rw [if_neg Bool.false_ne_true, whole]
                have transmitted := attends.concord.transmit found replaces
                  (Network.sender_parcelOf id frame socket.composed) socket.endpoint
                rw [Network.frames_parcelOf] at transmitted
                refine passed.then ⟨⟨?_, attends.role⟩, rfl, List.suffix_cons _ _⟩
                exact transmitted.of_alike (Network.Alike.elapse _ Network.stepNanos)

/-- Nothing is read, or the next frame of the reply. -/
theorem Attends.receive (attends : parley.Attends (some (id, stand))) :
    (∃ fault after, fabric.receive id parley = (.error fault, after) ∧
      parley.Leads (some (id, stand)) [] after) ∨
    (∃ frame read after, fabric.receive id parley = (.ok frame, after) ∧
      stand.HasRead read frame.following ∧
      if frame.following = 0 then
        parley.Leads (some (id, .ready [])) [.replied id] after ∧
          ParleyEvent.progress id after.history = .answered (read ++ [frame.bytes])
      else
        parley.Leads (some (id, .reading (read ++ [frame.bytes]) frame.following)) [] after) := by
  have passed := attends.pass
  change (∃ fault after, Parley.receive id parley = (.error fault, after) ∧ _) ∨
    (∃ frame read after, Parley.receive id parley = (.ok frame, after) ∧ _)
  unfold Parley.receive
  cases parts : parley.pass with
  | mk interlude before =>
      rw [parts] at passed
      have attends := passed.attends
      dsimp only at attends ⊢
      cases interlude.fault with
      | some fault => exact Or.inl ⟨fault, _, rfl, passed⟩
      | none =>
          dsimp only
          rcases Network.receive_cases before.network id with
            ⟨fault, failed⟩ | ⟨socket, parcel, later, usable, turn, inbox⟩
          · rw [failed]
            exact Or.inl ⟨fault, _, rfl, passed⟩
          · have found := (Network.usable_eq_ok_iff.mp usable).1
            obtain ⟨old, found', role, fits⟩ := attends.concord.client id stand rfl
            rw [found] at found'
            cases found'
            obtain ⟨rfl, whole, read, hasRead, answered⟩ := fits.reply inbox
            obtain ⟨sender, frame, following⟩ := parcel
            cases following with
            | nil =>
                obtain ⟨after, received, replaces⟩ := Network.receive_last usable turn inbox
                rw [received]
                refine Or.inr ⟨⟨frame, 0⟩, read, _, rfl, hasRead, ?_⟩
                rw [if_pos rfl]
                refine ⟨passed.then (Leads.note (attends.of_network ?_) trivial), ?_⟩
                · refine attends.concord.replace_held found replaces rfl rfl ?_
                  refine ⟨?_, whole, rfl, ?_⟩
                  · rw [role]
                    rintro ⟨⟩
                  · rw [answered]
                    trivial
                · exact answered
            | cons next rest =>
                obtain ⟨after, received, replaces⟩ := Network.receive_more usable turn inbox
                rw [received]
                refine Or.inr ⟨⟨frame, rest.length + 1⟩, read, _, rfl, hasRead, ?_⟩
                rw [if_neg (Nat.succ_ne_zero _)]
                refine passed.then (attends.of_network ?_)
                refine attends.concord.replace_held found replaces rfl rfl ?_
                refine ⟨turn, whole, _, rfl, rfl, ?_⟩
                rw [answered, List.append_assoc]
                rfl

def admittance (id : SocketId) (readiness : Readiness) :
    Except SocketFault Bool → List ParleyEvent
  | .ok ready => if readiness = .writable ∧ ready = true then [.admitted id] else []
  | .error _ => []

theorem Attends.polled {held : Option (SocketId × Stand)} (attends : parley.Attends held)
    (id : SocketId) (readiness : Readiness) (ready : Bool) :
    parley.Leads held (admittance id readiness (.ok ready))
      (parley.notePolled id readiness ready) := by
  cases readiness <;> cases ready
  · exact attends.leads
  · exact attends.leads
  · exact attends.leads
  · exact attends.leads.note trivial

theorem Attends.poll {held : Option (SocketId × Stand)} (attends : parley.Attends held)
    (id : SocketId) (readiness : Readiness) (wait : Wait) :
    parley.Leads held (admittance id readiness (fabric.poll id readiness wait parley).1)
      (fabric.poll id readiness wait parley).2 := by
  have passed := attends.pass
  change parley.Leads held (admittance id readiness (Parley.poll id readiness wait parley).1)
    (Parley.poll id readiness wait parley).2
  unfold Parley.poll
  cases parts : parley.pass with
  | mk interlude before =>
      rw [parts] at passed
      have attends := passed.attends
      dsimp only at attends ⊢
      cases interlude.fault with
      | some fault => exact passed
      | none =>
          cases interlude.ready with
          | some ready => exact passed.then (attends.polled id readiness ready)
          | none =>
              have alike := Network.poll_alike before.network id readiness wait
              dsimp only
              cases polling : before.network.poll id readiness wait with
              | mk result network =>
                  rw [polling] at alike
                  have led := attends.of_alike alike
                  cases result with
                  | error fault => exact passed.then led
                  | ok ready =>
                      exact (passed.then led).then (led.attends.polled id readiness ready)

theorem Attends.pollReadable {held : Option (SocketId × Stand)} (attends : parley.Attends held)
    (id : SocketId) (wait : Wait) :
    parley.Leads held [] (fabric.pollReadable id wait parley).2 := by
  have polled := attends.poll id .readable wait
  unfold Fabric.pollReadable
  cases polling : fabric.poll id .readable wait parley with
  | mk result after =>
      rw [polling] at polled
      cases result with
      | ok ready => cases ready <;> exact polled
      | error fault => cases fault <;> exact polled

/-! ## Whole messages -/

/-- All frames are sent as one request, or one of them is refused and the rest stays unsent. -/
theorem Attends.sendFrames {composed : List ByteArray}
    (attends : parley.Attends (some (id, .ready composed))) (first : ByteArray)
    (rest : List ByteArray) :
    (∃ fault sent after, fabric.sendFrames id (first :: rest) parley = (.error fault, after) ∧
      parley.Leads (some (id, .ready sent)) [.declined id] after) ∨
    (∃ after, fabric.sendFrames id (first :: rest) parley = (.ok (), after) ∧
      parley.Leads (some (id, .awaiting))
        [.transmitted id (composed ++ first :: rest)] after) := by
  induction rest generalizing parley composed first with
  | nil =>
      rcases attends.send first false with
        ⟨fault, after, refused, leads⟩ | ⟨sent, after, isReady, accepted, leads⟩
      · refine Or.inl ⟨fault, composed, after, ?_, leads⟩
        have step : fabric.send id first (!([] : List ByteArray).isEmpty) parley = _ := refused
        rw [Fabric.sendFrames, step]
      · cases isReady
        refine Or.inr ⟨after, ?_, leads⟩
        have step : fabric.send id first (!([] : List ByteArray).isEmpty) parley = _ := accepted
        rw [Fabric.sendFrames, step]
        rfl
  | cons second rest ih =>
      rcases attends.send first true with
        ⟨fault, after, refused, leads⟩ | ⟨sent, middle, isReady, accepted, leads⟩
      · refine Or.inl ⟨fault, composed, after, ?_, leads⟩
        have step : fabric.send id first (!(second :: rest).isEmpty) parley = _ := refused
        rw [Fabric.sendFrames, step]
      · cases isReady
        rw [if_pos rfl] at leads
        have step : fabric.send id first (!(second :: rest).isEmpty) parley = _ := accepted
        rw [Fabric.sendFrames, step]
        dsimp only
        rcases ih leads.attends second with
          ⟨fault, sent, after, refused, later⟩ | ⟨after, accepted, later⟩
        · exact Or.inl ⟨fault, sent, after, refused, leads.then later⟩
        · refine Or.inr ⟨after, accepted, ?_⟩
          rw [List.append_assoc] at later
          exact leads.then later

/-- What reading a reply comes to: a failure amid it, or the whole answer. -/
inductive ReadsReply (parley : Parley) (id : SocketId) :
    Except SocketFault (List ByteArray) × Parley → Prop where
  | failed {fault : SocketFault} {stand : Stand} {after : Parley}
      (leads : parley.Leads (some (id, stand)) [] after) :
      ReadsReply parley id (.error fault, after)
  | whole {frames : List ByteArray} {after : Parley}
      (leads : parley.Leads (some (id, .ready [])) [.replied id] after)
      (answered : ParleyEvent.progress id after.history = .answered frames) :
      ReadsReply parley id (.ok frames, after)

theorem ReadsReply.after {middle : Parley} {outcome : Except SocketFault (List ByteArray) × Parley}
    {stand : Stand} (first : parley.Leads (some (id, stand)) [] middle)
    (reads : middle.ReadsReply id outcome) : parley.ReadsReply id outcome := by
  cases reads with
  | failed leads => exact .failed (first.then leads)
  | whole leads answered => exact .whole (first.then leads) answered

theorem Attends.collectFollowing {read : List ByteArray} {count : Nat}
    (attends : parley.Attends (some (id, .reading read (count + 1)))) :
    parley.ReadsReply id (fabric.collectFollowing id (count + 1) read parley) := by
  induction count generalizing parley read with
  | zero =>
      rw [Fabric.collectFollowing]
      rcases attends.receive with
        ⟨fault, after, failed, leads⟩ | ⟨frame, earlier, after, received, ⟨rfl, last⟩, leads⟩
      · rw [failed]
        exact .failed leads
      · rw [received]
        rw [if_pos (Nat.succ.inj last).symm] at leads
        exact .whole leads.1 leads.2
  | succ count ih =>
      rw [Fabric.collectFollowing]
      rcases attends.receive with
        ⟨fault, after, failed, leads⟩ | ⟨frame, earlier, after, received, ⟨rfl, more⟩, leads⟩
      · rw [failed]
        exact .failed leads
      · have following : frame.following = count + 1 := (Nat.succ.inj more).symm
        rw [received]
        rw [following, if_neg (Nat.succ_ne_zero count)] at leads
        exact (ih leads.attends).after leads

theorem Attends.receiveFrames (attends : parley.Attends (some (id, .awaiting))) :
    parley.ReadsReply id (fabric.receiveFrames id parley) := by
  rw [Fabric.receiveFrames]
  rcases attends.receive with
    ⟨fault, after, failed, leads⟩ | ⟨frame, read, after, received, rfl, leads⟩
  · rw [failed]
    exact .failed leads
  · rw [received]
    dsimp only
    cases following : frame.following with
    | zero =>
        rw [if_pos following] at leads
        exact .whole leads.1 leads.2
    | succ count =>
        rw [following, if_neg (Nat.succ_ne_zero count)] at leads
        exact leads.attends.collectFollowing.after leads

/-! ## Beginnings -/

structure Begins (parley : Parley) : Prop where
  peer : ∃ settings shared, Responder.create settings shared = .ok parley.peer
  sockets : parley.network.sockets = []
  history : parley.history = []

theorem Begins.attends (begins : parley.Begins) : parley.Attends none := by
  obtain ⟨⟨settings, shared, created⟩, sockets, history⟩ := begins
  unfold Responder.create at created
  have isPeer : parley.peer.lifecycle.role = .responder ∧
      parley.peer.lifecycle.socket = none := by
    split at created
    · cases created
    · rw [← Except.ok.inj created]
      exact ⟨rfl, rfl⟩
  have absent (id : SocketId) : parley.network.find? id = none := by
    rw [Network.find?, sockets]
    rfl
  have keys : parley.network.keys = [] := by
    rw [Network.keys, sockets]
    rfl
  refine ⟨?_, isPeer.1⟩
  rw [served, isPeer.2, history]
  refine ⟨⟨?_, ?_, ?_⟩, fun id _ => rfl, trivial, ?_, ?_, fun id => Or.inl ?_⟩
  · rw [keys]
    exact List.nodup_nil
  · rw [keys]
    exact fun id member => absurd member List.not_mem_nil
  · rw [keys]
    exact fun id member => absurd member List.not_mem_nil
  · rintro id stand ⟨⟩
  · rintro id ⟨⟩
  · rw [Network.pending, Network.outbox, absent]
    rfl

end Parley

end TaskLink
