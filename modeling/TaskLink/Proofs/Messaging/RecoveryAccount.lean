import TaskLink.Proofs.Messaging.ParleyRuns

/-!
# Accounting for recoveries

As long as no call meets a failed opening or a refused ready socket, the
socket's stand after a call follows from how the call ended, and a call
replaces the socket before it sends exactly when the latest one gave up.
-/

namespace TaskLink

/-! ## What is accounted for -/

/-- Whether an event is an opening that failed, or a refused frame of a ready socket. -/
def ParleyEvent.isMishap : ParleyEvent → Bool
  | .openingFailed | .declined _ => true
  | _ => false

/-- How many openings failed, and how many frames of ready sockets were refused. -/
def Parley.mishaps (parley : Parley) : Nat :=
  parley.deeds.countP ParleyEvent.isMishap

instance (conversation : Conversation) (call : Call) : Decidable (conversation.Sends call) :=
  inferInstanceAs (Decidable (_ ∧ _))

namespace Conversation

/-- The client has a live socket, which waits for the reply to what it sent last. -/
def Awaits (conversation : Conversation) (message : ByteArray) : Prop :=
  ∃ id socket earlier, conversation.client.lifecycle.socket = some id ∧
    conversation.parley.network.find? id = some socket ∧ socket.turn = .toReceive ∧
    conversation.parley.deeds = .transmitted id [message] :: earlier

end Conversation

namespace Entry

def sends (entry : Entry) : Bool :=
  match entry.operation.request with
  | some call => decide (entry.before.Sends call)
  | none => false

def givesUp (entry : Entry) : Bool :=
  match entry.outcome with
  | .ok () => false
  | .error error => error.givesUp

/-- No call met a failed opening or a refused ready socket. -/
def IsSmooth (entry : Entry) : Prop :=
  entry.operation.request.isSome → entry.after.parley.mishaps = entry.before.parley.mishaps

instance (entry : Entry) : Decidable entry.IsSmooth :=
  inferInstanceAs (Decidable (_ → _))

/-- Whether the latest call that sent anything was abandoned, and its socket was left since. -/
def abandoned : List Entry → Bool
  | [] => false
  | entry :: earlier =>
      match entry.operation with
      | .manage .start =>
          if entry.before.client.lifecycle.isLive then abandoned earlier else false
      | .manage _ => false
      | .watch _ | .peer _ => abandoned earlier
      | .callBytes _ _ | .call _ _ => if entry.sends then entry.givesUp else abandoned earlier

def recoveries : List Entry → Nat
  | [] => 0
  | entry :: earlier =>
      recoveries earlier + if entry.sends && abandoned earlier then 1 else 0

def Ends (entry : Entry) (message : ByteArray) : Prop :=
  match entry.outcome with
  | .ok () | .error (.invalidMessage _) | .error (.receiveFailed _) =>
      entry.after.client.lifecycle.IsReadyIn entry.after.parley
  | .error (.timedOut _ _) | .error (.interrupted _ _) => entry.after.Awaits message
  | .error (.messageTooLarge _ _) | .error (.notInitialized _) => entry.after = entry.before
  | .error _ => False

def Concludes (entry : Entry) (socket : SocketId) (deeds : List ParleyEvent) : Prop :=
  match entry.outcome with
  | .ok () | .error (.invalidMessage _) => deeds = [.replied socket]
  | .error (.receiveFailed _) => ∃ fresh, deeds = [.opened fresh]
  | .error _ => deeds = []

structure IsAccounted (entry : Entry) (abandoned : Bool) : Prop where
  ends : ∀ call, entry.operation.request = some call → entry.Ends call.message
  resends : entry.after.client.lifecycle.resends =
    entry.before.client.lifecycle.resends + if entry.sends && abandoned then 1 else 0
  deeds : ∀ call, entry.operation.request = some call → entry.sends = true →
    ∃ socket later, entry.Concludes socket later ∧
      entry.after.parley.deeds =
        later ++ .transmitted socket [call.message] ::
          ((if abandoned then [.opened socket] else []) ++ entry.before.parley.deeds)
  running : entry.before.client.lifecycle.isLive = true →
    entry.after.client.lifecycle.isLive = true ∨ entry.operation = .manage .destroy ∨
      ∃ operation error, operation ≠ .start ∧ entry.operation = .manage operation ∧
        entry.outcome = .error error

end Entry

/-! ## Smooth calls -/

namespace Parley

variable {before after : Parley} {held : Option (SocketId × Stand)} {deeds : List ParleyEvent}

theorem Leads.mishaps (leads : before.Leads held deeds after) :
    after.mishaps = deeds.countP ParleyEvent.isMishap + before.mishaps := by
  rw [Parley.mishaps, leads.deeds_eq, List.countP_append]
  rfl

/-- Where nothing more went wrong, no deed was a mishap. -/
theorem Leads.not_mishap (leads : before.Leads held deeds after)
    (smooth : after.mishaps = before.mishaps) {event : ParleyEvent} (member : event ∈ deeds) :
    event.isMishap = false := by
  rw [leads.mishaps] at smooth
  have none : deeds.countP ParleyEvent.isMishap = 0 := by omega
  exact Bool.eq_false_iff.mpr (List.countP_eq_zero.mp none event member)

end Parley

def awaits : Option (SocketId × Stand) → Bool
  | some (_, .awaiting) => true
  | _ => false

inductive SmoothEnd (socket : SocketId) :
    Except LinkError ByteArray → Option (SocketId × Stand) → List ParleyEvent → Prop where
  | replied {reply : ByteArray} :
      SmoothEnd socket (.ok reply) (some (socket, .ready [])) [.replied socket]
  | failed {detail : String} {fresh : SocketId} :
      SmoothEnd socket (.error (.receiveFailed detail)) (some (fresh, .ready [])) [.opened fresh]
  | givenUp {error : LinkError} (givesUp : error.givesUp = true) :
      SmoothEnd socket (.error error) (some (socket, .awaiting)) []

namespace Conversation

variable {conversation : Conversation} {held : Option (SocketId × Stand)}

structure SendsSmoothly (conversation : Conversation) (held held' : Option (SocketId × Stand))
    (call : Call) (socket : SocketId) (later : List ParleyEvent)
    (result : Except LinkError ByteArray) (client : Requester Parley) (after : Parley) : Prop where
  smoothEnd : SmoothEnd socket result held' later
  leads : conversation.parley.Leads held'
    (later ++ .transmitted socket [call.message] ::
      if awaits held then [.opened socket] else []) after
  stands : Conversation.Stands ⟨client, after⟩ held'
  resends : client.lifecycle.resends =
    conversation.client.lifecycle.resends + if awaits held then 1 else 0

theorem Stands.smoothly (stands : conversation.Stands held) {call : Call} {socket : SocketId}
    {sender lifecycle : Lifecycle} {middle after : Parley} {result : Except LinkError ByteArray}
    (leads : conversation.parley.Leads (some (socket, .awaiting))
      (.transmitted socket [call.message] :: if awaits held then [.opened socket] else []) middle)
    (role : sender.role = .requester) (isSocket : sender.socket = some socket)
    (resends : sender.resends =
      conversation.client.lifecycle.resends + if awaits held then 1 else 0)
    (concludes : middle.Concludes socket sender (result, lifecycle, after))
    (smooth : after.mishaps = conversation.parley.mishaps) :
    ∃ held' later, conversation.SendsSmoothly held held' call socket later result
      { conversation.client with lifecycle := lifecycle } after := by
  cases concludes with
  | givenUp givesUp socket role same waits =>
      refine ⟨_, _, .givenUp givesUp, leads.trans waits, ?_, same.trans resends⟩
      refine ⟨waits.attends, role, socket.symm, ?_, stands.source⟩
      rintro id stand ⟨⟩
      trivial
  | replied reads answered =>
      refine ⟨_, _, .replied, leads.trans reads, ?_, resends⟩
      refine ⟨reads.attends, role, isSocket.symm, ?_, stands.source⟩
      rintro id stand ⟨⟩
      rfl
  | failed opens =>
      cases opens with
      | ready socket role same opened =>
          refine ⟨_, _, .failed, leads.trans opened, ?_, same.trans resends⟩
          refine ⟨opened.attends, role, socket.symm, ?_, stands.source⟩
          rintro id stand ⟨⟩
          rfl
      | failed socket role same opened =>
          have smoothly := (leads.trans opened).not_mishap smooth
            (List.mem_append_left _ List.mem_cons_self)
          cases smoothly

/-- A smooth call leaves everything as it was, or sends its request. -/
theorem Calls.smoothly {call : Call} {result : Except LinkError ByteArray}
    {client : Requester Parley} {after : Parley} (stands : conversation.Stands held)
    (calls : conversation.Calls held call (result, client, after))
    (smooth : after.mishaps = conversation.parley.mishaps) :
    (¬ conversation.Sends call ∧ client = conversation.client ∧ after = conversation.parley ∧
      ((∃ size limit, result = .error (.messageTooLarge size limit)) ∨
        ∃ detail, result = .error (.notInitialized detail))) ∨
    (conversation.Sends call ∧ ∃ held' socket later,
      conversation.SendsSmoothly held held' call socket later result client after) := by
  cases calls with
  | tooLarge unsent => exact Or.inl ⟨unsent, rfl, rfl, Or.inl ⟨_, _, rfl⟩⟩
  | stopped unsent => exact Or.inl ⟨unsent, rfl, rfl, Or.inr ⟨_, rfl⟩⟩
  | unsent isHeld sends refused =>
      cases refused with
      | refused socket role leads =>
          cases leads.not_mishap smooth List.mem_cons_self
      | lost socket role leads =>
          cases leads.not_mishap smooth List.mem_cons_self
  | @sent id socket stand sender lifecycle middle _ _ isHeld sends accepted concludes =>
      refine Or.inr ⟨sends, ?_⟩
      subst isHeld
      cases accepted with
      | direct isReady leads =>
          subst isReady
          obtain ⟨held', later, smoothly⟩ := stands.smoothly leads stands.role
            stands.socket.symm rfl concludes smooth
          exact ⟨held', _, later, smoothly⟩
      | resent isSocket role resends leads =>
          -- Had the socket been ready, the first refusal would have been a mishap.
          obtain ⟨_, _, waits⟩ := concludes.leads
          have noMishap : middle.mishaps = conversation.parley.mishaps := by
            have first := leads.mishaps
            have second := waits.mishaps
            dsimp only at second
            omega
          cases stand with
          | ready composed =>
              have impossible : (ParleyEvent.declined id).isMishap = false :=
                leads.not_mishap noMishap (by simp [Stand.refusal])
              cases impossible
          | reading read left => exact (stands.whole id _ rfl).elim
          | awaiting =>
              obtain ⟨held', later, smoothly⟩ := stands.smoothly leads role isSocket resends
                concludes smooth
              exact ⟨held', _, later, smoothly⟩

/-! ## Entries -/

theorem Stands.isReady {id : SocketId} (stands : conversation.Stands (some (id, .ready []))) :
    conversation.client.lifecycle.IsReadyIn conversation.parley :=
  Lifecycle.isReadyIn_of_attends stands.attends stands.socket.symm

theorem Stands.awaitsReply {id : SocketId} {message : ByteArray} {earlier : List ParleyEvent}
    (stands : conversation.Stands (some (id, .awaiting)))
    (deeds : conversation.parley.deeds = .transmitted id [message] :: earlier) :
    conversation.Awaits message := by
  obtain ⟨socket, found, -, turn, -⟩ := stands.attends.concord.client id _ rfl
  exact ⟨id, socket, earlier, stands.socket.symm, found, turn, deeds⟩

theorem Stands.isLive {id : SocketId} {stand : Stand}
    (stands : conversation.Stands (some (id, stand))) :
    conversation.client.lifecycle.isLive = true := by
  rw [Lifecycle.isLive, ← stands.socket]
  rfl

/-- What is reported of a call: a reply may turn out not to be text. -/
inductive Reports : Except LinkError ByteArray → Except LinkError Unit → Prop where
  | replied {reply : ByteArray} : Reports (.ok reply) (.ok ())
  | undecodable {reply : ByteArray} {detail : String} :
      Reports (.ok reply) (.error (.invalidMessage detail))
  | failed {error : LinkError} : Reports (.error error) (.error error)

/-- Both kinds of call come down to the same one. -/
theorem perform_of_request {operation : ClientOperation} {call : Call}
    {outcome : Except LinkError Unit} {after : Conversation}
    (asks : operation.request = some call)
    (performed : conversation.perform operation = some (outcome, after)) :
    ∃ fuel result, conversation.client.callBytes Parley.fabric fuel call conversation.parley =
      some (result, after.client, after.parley) ∧ Reports result outcome := by
  cases operation with
  | callBytes fuel wanted =>
      cases asks
      obtain ⟨⟨result, client, parley⟩, returned, same⟩ := Option.map_eq_some_iff.mp performed
      cases same
      refine ⟨fuel, result, returned, ?_⟩
      cases result with
      | ok reply => exact .replied
      | error error => exact .failed
  | call fuel wanted =>
      cases asks
      obtain ⟨⟨text, client, parley⟩, called, same⟩ := Option.map_eq_some_iff.mp performed
      cases same
      obtain ⟨⟨result, client, parley⟩, returned, same⟩ := Option.map_eq_some_iff.mp called
      cases same
      refine ⟨fuel, result, returned, ?_⟩
      cases result with
      | error error => exact .failed
      | ok reply =>
          change Reports (.ok reply) ((Requester.replyText reply).map fun _ => ())
          unfold Requester.replyText
          cases decodeUtf8 reply with
          | ok text => exact .replied
          | error fault => exact .undecodable
  | manage operation => cases asks
  | watch asked => cases asks
  | peer move => cases asks

end Conversation

namespace Entry

variable {entry : Entry} {held : Option (SocketId × Stand)} {call : Call}

theorem sends_eq (asks : entry.operation.request = some call) :
    entry.sends = decide (entry.before.Sends call) := by
  rw [sends, asks]

theorem isAccounted_of_smoothly {held' : Option (SocketId × Stand)} {socket : SocketId}
    {later : List ParleyEvent} {result : Except LinkError ByteArray}
    (asks : entry.operation.request = some call) (sends : entry.before.Sends call)
    (reports : Conversation.Reports result entry.outcome)
    (smoothly : entry.before.SendsSmoothly held held' call socket later result
      entry.after.client entry.after.parley) :
    entry.IsAccounted (awaits held) ∧ entry.givesUp = awaits held' := by
  have isSent : entry.sends = true := by
    rw [sends_eq asks]
    exact decide_eq_true sends
  have deeds : entry.after.parley.deeds =
      later ++ .transmitted socket [call.message] ::
        ((if awaits held then [.opened socket] else []) ++ entry.before.parley.deeds) := by
    rw [smoothly.leads.deeds_eq, List.append_assoc, List.cons_append]
  have stands : entry.after.Stands held' := smoothly.stands
  have ending : entry.Ends call.message ∧ entry.Concludes socket later ∧
      entry.after.client.lifecycle.isLive = true ∧ entry.givesUp = awaits held' := by
    unfold Ends Entry.Concludes givesUp
    generalize entry.outcome = outcome at reports ⊢
    cases smoothly.smoothEnd with
    | replied =>
        cases reports with
        | replied => exact ⟨stands.isReady, rfl, stands.isLive, rfl⟩
        | undecodable => exact ⟨stands.isReady, rfl, stands.isLive, rfl⟩
    | failed =>
        cases reports
        exact ⟨stands.isReady, ⟨_, rfl⟩, stands.isLive, rfl⟩
    | @givenUp error givesUp =>
        cases reports
        have waits := stands.awaitsReply deeds
        cases error with
        | timedOut command limit => exact ⟨waits, rfl, stands.isLive, rfl⟩
        | interrupted command bits => exact ⟨waits, rfl, stands.isLive, rfl⟩
        | _ => cases givesUp
  obtain ⟨ends, concludes, live, gaveUp⟩ := ending
  refine ⟨⟨?_, ?_, ?_, fun _ => Or.inl live⟩, gaveUp⟩
  · intro other asks'
    rw [asks] at asks'
    cases asks'
    exact ends
  · rw [isSent, Bool.true_and]
    exact smoothly.resends
  · intro other asks' _
    rw [asks] at asks'
    cases asks'
    exact ⟨socket, later, concludes, deeds⟩

theorem isAccounted_of_unsent {abandoned : Bool} (asks : entry.operation.request = some call)
    (unsent : ¬ entry.before.Sends call) (same : entry.after = entry.before)
    (refused : (∃ size limit, entry.outcome = .error (.messageTooLarge size limit)) ∨
      ∃ detail, entry.outcome = .error (.notInitialized detail)) :
    entry.IsAccounted abandoned := by
  have nothing : entry.sends = false := by
    rw [sends_eq asks]
    exact decide_eq_false unsent
  refine ⟨?_, ?_, ?_, ?_⟩
  · intro other asks'
    unfold Ends
    rcases refused with ⟨size, limit, isRefused⟩ | ⟨detail, isRefused⟩
    · rw [isRefused]
      exact same
    · rw [isRefused]
      exact same
  · rw [nothing, same]
    rfl
  · intro other asks' sends
    rw [nothing] at sends
    cases sends
  · intro live
    rw [same]
    exact Or.inl live

theorem isAccounted_of_no_request {abandoned : Bool} (asksNothing : entry.operation.request = none)
    (resends : entry.after.client.lifecycle.resends = entry.before.client.lifecycle.resends)
    (running : entry.before.client.lifecycle.isLive = true →
      entry.after.client.lifecycle.isLive = true ∨ entry.operation = .manage .destroy ∨
        ∃ operation error, operation ≠ .start ∧ entry.operation = .manage operation ∧
          entry.outcome = .error error) :
    entry.IsAccounted abandoned := by
  have nothing : entry.sends = false := by
    rw [sends, asksNothing]
  refine ⟨?_, ?_, ?_, running⟩
  · intro call asks
    rw [asksNothing] at asks
    cases asks
  · rw [nothing, resends]
    rfl
  · intro call asks
    rw [asksNothing] at asks
    cases asks

end Entry

/-! ## Runs -/

namespace Account

/-- Every entry is accounted for, and the socket waits if the latest call was abandoned. -/
structure IsBalanced (account : Account) (held : Option (SocketId × Stand)) : Prop where
  stands : account.now.Stands held
  awaiting : awaits held = Entry.abandoned account.entries
  resends : account.now.client.lifecycle.resends = Entry.recoveries account.entries
  accounted : ∀ entry earlier, entry :: earlier <:+ account.entries →
    entry.IsAccounted (Entry.abandoned earlier)

variable {account : Account} {held : Option (SocketId × Stand)}

theorem IsBalanced.entry (balanced : account.IsBalanced held)
    {held' : Option (SocketId × Stand)} {operation : ClientOperation}
    {outcome : Except LinkError Unit} {after : Conversation} (stands : after.Stands held')
    (awaiting : awaits held' =
      Entry.abandoned (⟨operation, outcome, account.now, after⟩ :: account.entries))
    (isAccounted : Entry.IsAccounted ⟨operation, outcome, account.now, after⟩ (awaits held)) :
    IsBalanced ⟨after, ⟨operation, outcome, account.now, after⟩ :: account.entries⟩ held' where
  stands := stands
  awaiting := awaiting
  resends := by
    rw [Entry.recoveries, ← balanced.awaiting, ← balanced.resends]
    exact isAccounted.resends
  accounted other earlier past := by
    rcases List.suffix_cons_iff.mp past with same | past
    · cases same
      rw [← balanced.awaiting]
      exact isAccounted
    · exact balanced.accounted other earlier past

theorem IsBalanced.call (balanced : account.IsBalanced held) {operation : ClientOperation}
    {call : Call} {outcome : Except LinkError Unit} {after : Conversation}
    (asks : operation.request = some call)
    (performed : account.now.perform operation = some (outcome, after))
    (smooth : after.parley.mishaps = account.now.parley.mishaps) :
    ∃ held', IsBalanced ⟨after, ⟨operation, outcome, account.now, after⟩ :: account.entries⟩
      held' := by
  let entry : Entry := ⟨operation, outcome, account.now, after⟩
  have asks' : entry.operation.request = some call := asks
  have standing : Entry.abandoned (entry :: account.entries) =
      if entry.sends then entry.givesUp else Entry.abandoned account.entries := by
    cases operation with
    | callBytes fuel wanted => rfl
    | call fuel wanted => rfl
    | manage operation => cases asks
    | watch asked => cases asks
    | peer move => cases asks
  obtain ⟨fuel, result, returned, reports⟩ := Conversation.perform_of_request asks performed
  rcases (balanced.stands.calls returned).smoothly balanced.stands smooth with
    ⟨unsent, client, parley, refused⟩ | ⟨sends, held', socket, later, smoothly⟩
  · have same : after = account.now := by
      cases after
      cases client
      cases parley
      rfl
    have refused' : (∃ size limit, entry.outcome = .error (.messageTooLarge size limit)) ∨
        ∃ detail, entry.outcome = .error (.notInitialized detail) := by
      change (∃ size limit, outcome = _) ∨ ∃ detail, outcome = _
      rcases refused with ⟨size, limit, rfl⟩ | ⟨detail, rfl⟩
      · cases reports
        exact Or.inl ⟨size, limit, rfl⟩
      · cases reports
        exact Or.inr ⟨detail, rfl⟩
    refine ⟨held, balanced.entry ?_ ?_
      (Entry.isAccounted_of_unsent asks' unsent same refused')⟩
    · rw [same]
      exact balanced.stands
    · rw [standing, Entry.sends_eq asks', decide_eq_false unsent, balanced.awaiting]
      rfl
  · obtain ⟨isAccounted, gaveUp⟩ :=
      Entry.isAccounted_of_smoothly asks' sends reports smoothly
    refine ⟨held', balanced.entry smoothly.stands ?_ isAccounted⟩
    rw [standing, Entry.sends_eq asks', decide_eq_true sends, if_pos rfl, gaveUp]

theorem IsBalanced.manage (balanced : account.IsBalanced held) {operation : LifecycleOperation}
    {outcome : Except LinkError Unit} {after : Conversation}
    (performed : account.now.perform (.manage operation) = some (outcome, after)) :
    ∃ held', IsBalanced
      ⟨after, ⟨.manage operation, outcome, account.now, after⟩ :: account.entries⟩ held' := by
  have stands := balanced.stands
  unfold Conversation.perform at performed
  dsimp only at performed
  rcases operation.perform_parley stands.role stands.attends stands.socket with
    ⟨rfl, live, same⟩ | ⟨rfl, destroyed, parley, same, socket, role, resends, leads⟩ |
    ⟨notDestroy, notLive, result, opened, parley, opens, same⟩
  · rw [same] at performed
    cases performed
    refine ⟨held, balanced.entry ?_ ?_ ?_⟩
    · exact stands
    · rw [Entry.abandoned]
      dsimp only
      rw [if_pos live, balanced.awaiting]
    · exact Entry.isAccounted_of_no_request rfl rfl fun live => Or.inl live
  · rw [same] at performed
    cases performed
    refine ⟨none, balanced.entry ?_ rfl ?_⟩
    · refine ⟨leads.attends, role, socket.symm, ?_, stands.source⟩
      rintro id stand ⟨⟩
    · exact Entry.isAccounted_of_no_request rfl resends fun _ => Or.inr (Or.inl rfl)
  · rw [same] at performed
    cases performed
    have standing (outcome : Except LinkError Unit) (after : Conversation) :
        Entry.abandoned (⟨.manage operation, outcome, account.now, after⟩ :: account.entries) =
          false := by
      rw [Entry.abandoned]
      cases operation with
      | start =>
          dsimp only
          rw [notLive rfl]
          rfl
      | establish context => rfl
      | renew => rfl
      | destroy => exact absurd rfl notDestroy
    cases opens with
    | @ready id _ _ socket role resends leads =>
        refine ⟨some (id, .ready []), balanced.entry ?_ (standing _ _).symm ?_⟩
        · refine ⟨leads.attends, role, socket.symm, ?_, stands.source⟩
          rintro id stand ⟨⟩
          rfl
        · refine Entry.isAccounted_of_no_request rfl resends fun _ => Or.inl ?_
          change opened.isLive = true
          rw [Lifecycle.isLive, socket]
          rfl
    | failed socket role resends leads =>
        refine ⟨none, balanced.entry ?_ (standing _ _).symm ?_⟩
        · refine ⟨leads.attends, role, socket.symm, ?_, stands.source⟩
          rintro id stand ⟨⟩
        · refine Entry.isAccounted_of_no_request rfl resends fun live => ?_
          refine Or.inr (Or.inr ⟨operation, _, ?_, rfl, rfl⟩)
          intro isStart
          rw [notLive isStart] at live
          cases live

theorem IsBalanced.step (balanced : account.IsBalanced held) {operation : ClientOperation}
    {outcome : Except LinkError Unit} {after : Conversation}
    (performed : account.now.perform operation = some (outcome, after))
    (smooth : Entry.IsSmooth ⟨operation, outcome, account.now, after⟩) :
    ∃ held', IsBalanced ⟨after, ⟨operation, outcome, account.now, after⟩ :: account.entries⟩
      held' := by
  have stands := balanced.stands
  cases operation with
  | manage operation => exact balanced.manage performed
  | callBytes fuel call => exact balanced.call rfl performed (smooth rfl)
  | call fuel call => exact balanced.call rfl performed (smooth rfl)
  | watch asked =>
      cases performed
      refine ⟨held, balanced.entry ?_ balanced.awaiting ?_⟩
      · exact ⟨stands.attends, stands.role, stands.socket, stands.whole, Parley.eq_ask_of_source⟩
      · exact Entry.isAccounted_of_no_request rfl rfl fun live => Or.inl live
  | peer move =>
      cases performed
      have leads := move.perform_leads stands.attends
      refine ⟨held, balanced.entry ?_ balanced.awaiting ?_⟩
      · exact ⟨leads.attends, stands.role, stands.socket, stands.whole, stands.source⟩
      · exact Entry.isAccounted_of_no_request rfl rfl fun live => Or.inl live

theorem entries_suffix {operations : List ClientOperation} {reached : Account}
    (ran : run operations account = some reached) : account.entries <:+ reached.entries := by
  induction operations generalizing account with
  | nil =>
      cases ran
      exact List.suffix_refl _
  | cons operation rest ih =>
      obtain ⟨middle, stepped, later⟩ := Option.bind_eq_some_iff.mp ran
      obtain ⟨⟨outcome, after⟩, performed, rfl⟩ := Option.map_eq_some_iff.mp stepped
      exact (List.suffix_cons _ _).trans (ih later)

theorem IsBalanced.run {operations : List ClientOperation} {reached : Account}
    (balanced : account.IsBalanced held) (ran : run operations account = some reached)
    (smooth : ∀ entry ∈ reached.entries, entry.IsSmooth) :
    ∃ held', reached.IsBalanced held' := by
  induction operations generalizing account held with
  | nil =>
      cases ran
      exact ⟨held, balanced⟩
  | cons operation rest ih =>
      obtain ⟨middle, stepped, later⟩ := Option.bind_eq_some_iff.mp ran
      obtain ⟨⟨outcome, after⟩, performed, rfl⟩ := Option.map_eq_some_iff.mp stepped
      have first := smooth _ ((entries_suffix later).mem List.mem_cons_self)
      obtain ⟨held', balanced'⟩ := balanced.step performed first
      exact ih balanced' later

/--
In every run without mishaps in its calls, the outcome of a call tells where
its socket stands, a call replaces its socket before it sends exactly if the
latest one was abandoned, no call stops the client, and the journal counts the
replacements.
-/
theorem recovery_is_accounted {conversation : Conversation} (begins : conversation.Begins)
    {operations : List ClientOperation} {reached : Account}
    (ran : run operations ⟨conversation, []⟩ = some reached)
    (smooth : ∀ entry ∈ reached.entries, entry.IsSmooth) :
    reached.now.client.lifecycle.resends = Entry.recoveries reached.entries ∧
      ∀ entry earlier, entry :: earlier <:+ reached.entries →
        entry.IsAccounted (Entry.abandoned earlier) := by
  have begun : IsBalanced ⟨conversation, []⟩ none := by
    refine ⟨begins.stands, rfl, begins.resends, ?_⟩
    intro entry earlier impossible
    cases List.suffix_nil.mp impossible
  obtain ⟨held, balanced⟩ := begun.run ran smooth
  exact ⟨balanced.resends, balanced.accounted⟩

end Account

namespace GivenUpCall

/-- A client and its peer, which takes both requests only when the second call polls. -/
def conversation : Conversation where
  client :=
    { settings := { endpoint := ⟨"localhost", 5555⟩, maxMessageSize := 1 }
      lifecycle := { role := .requester, endpoint := ⟨"localhost", 5555⟩ } }
  parley :=
    { peer := ⟨{ role := .responder, endpoint := ⟨"*", 5555⟩ }⟩
      script := List.replicate 7 {} ++
        [{ moves := [.receive none, .send ⟨#[3]⟩, .receive none, .send ⟨#[4]⟩] }] }

/-- A call that gives up, one that is too large, and one that gets its reply. -/
def operations : List ClientOperation :=
  [.peer (.manage .start), .manage .start,
    .callBytes 3 { message := ⟨#[1]⟩, timeout := some (.ofMillis 100) },
    .callBytes 3 { message := ⟨#[1, 1]⟩ }, .callBytes 3 { message := ⟨#[2]⟩ }]

end GivenUpCall

open GivenUpCall in
/-- The call after one that gave up replaces the socket, and the journal has one line of it. -/
theorem Account.recovery_is_accounted_after_given_up_call :
    conversation.Begins ∧
      ∃ reached, run operations ⟨conversation, []⟩ = some reached ∧
        (∀ entry ∈ reached.entries, entry.IsSmooth) ∧
        Entry.recoveries reached.entries = 1 ∧
        reached.now.client.lifecycle.resends = Entry.recoveries reached.entries ∧
        ∀ entry earlier, entry :: earlier <:+ reached.entries →
          entry.IsAccounted (Entry.abandoned earlier) := by
  have begins : conversation.Begins :=
    ⟨⟨{ endpoint := ⟨"localhost", 5555⟩, maxMessageSize := 1 }, none, false, rfl⟩,
      ⟨⟨{ endpoint := ⟨"*", 5555⟩ }, none, rfl⟩, rfl, rfl⟩⟩
  have runs : ((run operations ⟨conversation, []⟩).map fun reached =>
      (decide (∀ entry ∈ reached.entries, entry.IsSmooth), Entry.recoveries reached.entries)) =
        some (true, 1) := by
    decide +kernel
  obtain ⟨reached, ran, found⟩ := Option.map_eq_some_iff.mp runs
  obtain ⟨isSmooth, once⟩ := Prod.mk.inj found
  have smooth := of_decide_eq_true isSmooth
  exact ⟨begins, reached, ran, smooth, once, recovery_is_accounted begins ran smooth⟩

end TaskLink
