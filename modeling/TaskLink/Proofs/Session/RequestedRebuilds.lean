import TaskLink.Messaging.Network
import TaskLink.Proofs.Session.CommandChannel
import TaskLink.Proofs.Session.Commands

/-!
# Requested rebuilds

Before it sends a command a session takes its monitor's request, and replaces
its socket if there was one.  So a command that finds a request goes out over
a socket that was opened after the request was made, and a request that comes
too late for one command waits for the next.  Replacing the socket for other
reasons happens only after an attempt to send.
-/

namespace TaskLink

open Alarmed

variable {σ : Type} {base : Fabric σ}

/-! ## Sending over the socket that was opened last -/

/--
What the session did with a message in hand: all that was sent is the message,
each time over the socket that was opened last, and that one is held now.
-/
structure Uses (before : Alarmed σ) (held : Option SocketId) (message : ByteArray)
    (deeds : List ChannelEvent) (held' : Option SocketId) (after : Alarmed σ) : Prop where
  grows : before.Grows deeds after
  isOver : ChannelEvent.AreOver held message deeds
  holds : held' = ChannelEvent.current held deeds

namespace Uses

variable {before middle after : Alarmed σ} {held held' held'' : Option SocketId}
  {message : ByteArray} {earlier later : List ChannelEvent}

theorem trans (one : Uses before held message earlier held' middle)
    (two : Uses middle held' message later held'' after) :
    Uses before held message (later ++ earlier) held'' after := by
  obtain ⟨grows, isOver, rfl⟩ := one
  obtain ⟨grows', isOver', rfl⟩ := two
  exact ⟨grows.trans grows', isOver.append isOver', (ChannelEvent.current_append _ _ _).symm⟩

theorem quiet (grows : before.Grows [] after) (held : Option SocketId) (message : ByteArray) :
    Uses before held message [] held after :=
  ⟨grows, trivial, rfl⟩

theorem refl (alarmed : Alarmed σ) (held : Option SocketId) (message : ByteArray) :
    Uses alarmed held message [] held alarmed :=
  quiet (.refl alarmed) held message

theorem after_quiet (grows : before.Grows [] middle)
    (two : Uses middle held message later held' after) :
    Uses before held message later held' after := by
  simpa using (quiet grows held message).trans two

end Uses

/-! ## Replacing the socket -/

inductive Reopens (before : Alarmed σ) (lifecycle : Lifecycle) :
    Except LinkError SocketId → Lifecycle → Alarmed σ → Prop where
  | ready {socket : SocketId} {opened : Lifecycle} {after : Alarmed σ}
      (holds : opened.socket = some socket) (grows : before.Grows [.opened socket] after) :
      Reopens before lifecycle (.ok socket) opened after
  | failed {fault : OpenFault} {opened : Lifecycle} {after : Alarmed σ}
      (holds : opened.socket = none) (grows : before.Grows [.refused fault] after) :
      Reopens before lifecycle (.error (lifecycle.openError fault)) opened after

/-- Wherever a socket is replaced, the message in hand goes on over the new one. -/
theorem Reopens.uses {before after : Alarmed σ} {lifecycle opened : Lifecycle}
    {result : Except LinkError SocketId} (reopens : Reopens before lifecycle result opened after)
    (held : Option SocketId) (message : ByteArray) :
    ∃ event, event.isAttempt = false ∧ Uses before held message [event] opened.socket after := by
  cases reopens with
  | ready holds grows => exact ⟨_, rfl, grows, trivial, holds⟩
  | failed holds grows => exact ⟨_, rfl, grows, trivial, holds⟩

namespace Lifecycle

variable (base) (lifecycle : Lifecycle) (alarmed : Alarmed σ)

theorem openOn_reopens (empty : lifecycle.socket = none) (context : ContextId) :
    Reopens alarmed lifecycle (lifecycle.openOn (fabric base) context alarmed).1
      (lifecycle.openOn (fabric base) context alarmed).2.1
      (lifecycle.openOn (fabric base) context alarmed).2.2 := by
  have grows := openSocket_grows base alarmed context lifecycle.role lifecycle.endpoint
    lifecycle.options
  obtain ⟨socket, after, opening, same⟩ | ⟨fault, after, opening, same⟩ :=
    openOn_cases (fabric base) lifecycle context alarmed
  · rw [opening] at grows
    rw [same]
    exact .ready rfl grows
  · rw [opening] at grows
    rw [same]
    exact .failed empty grows

theorem close_grows : alarmed.Grows [] (lifecycle.close (fabric base) alarmed).2 := by
  unfold close
  split
  · exact closeSocket_grows base _ alarmed
  · exact .refl alarmed

/-- An opening after steps that are not told of, for a lifecycle that differs in its hold only. -/
theorem reopens_after {before middle after : Alarmed σ} {lifecycle emptied opened : Lifecycle}
    {result : Except LinkError SocketId} (grows : before.Grows [] middle)
    (same : emptied.openError = lifecycle.openError)
    (reopens : Reopens middle emptied result opened after) :
    Reopens before lifecycle result opened after := by
  cases reopens with
  | ready holds grows' => exact .ready holds (by simpa using grows.trans grows')
  | failed holds grows' =>
      rw [same]
      exact .failed holds (by simpa using grows.trans grows')

theorem renew_reopens :
    Reopens alarmed lifecycle (lifecycle.renew (fabric base) alarmed).1
      (lifecycle.renew (fabric base) alarmed).2.1
      (lifecycle.renew (fabric base) alarmed).2.2 := by
  have closed := lifecycle.close_grows base alarmed
  rw [renew_eq]
  cases lifecycle.context with
  | some context =>
      refine reopens_after closed ?_ (openOn_reopens base _ _ ?_ context) <;> rfl
  | none =>
      have created := newContext_grows base (lifecycle.close (fabric base) alarmed).2
      refine reopens_after (closed.trans created) ?_ (openOn_reopens base _ _ ?_ _) <;> rfl

theorem recover_uses (message : ByteArray) :
    ∃ deeds, Uses alarmed lifecycle.socket message deeds
      (lifecycle.recover (fabric base) alarmed).1.socket
      (lifecycle.recover (fabric base) alarmed).2 := by
  have reopens :=
    (lifecycle.info "Re-creating zmq socket").renew_reopens base alarmed
  unfold recover
  obtain ⟨event, -, uses⟩ := reopens.uses lifecycle.socket message
  generalize (lifecycle.info "Re-creating zmq socket").renew (fabric base) alarmed = renewed at *
  obtain ⟨result, opened, after⟩ := renewed
  cases result <;> exact ⟨_, uses⟩

end Lifecycle

/-! ## Calls -/

namespace Requester

variable {lifecycle : Lifecycle} {alarmed : Alarmed σ} {message : ByteArray}

/--
A request is tried first over the held socket, and then perhaps over a new one.
If that succeeds it has been sent.
-/
theorem sendWithRecovery_uses {socket : SocketId} (holds : lifecycle.socket = some socket)
    {result : Except LinkError SocketId} {sender : Lifecycle} {after : Alarmed σ}
    (sending : sendWithRecovery (fabric base) message socket lifecycle alarmed =
      (result, sender, after)) :
    ∃ deeds, Uses alarmed lifecycle.socket message deeds sender.socket after ∧
      ChannelEvent.BeginWithAttempt deeds ∧
      ∀ fresh, result = .ok fresh → ∃ socket, .sent socket message ∈ deeds := by
  unfold sendWithRecovery at sending
  have grows := send_grows base socket alarmed message false
  rw [holds]
  split at sending
  · next middle accepted =>
      cases sending
      rw [accepted] at grows
      refine ⟨_, ⟨grows, ⟨rfl, rfl, trivial⟩, holds⟩, ⟨[], _, rfl, rfl⟩, ?_⟩
      intro fresh _
      exact ⟨socket, List.mem_cons_self⟩
  · next fault middle refused =>
      rw [refused] at grows
      have first : Uses alarmed (some socket) message [.unsent socket] (some socket) middle :=
        ⟨grows, ⟨rfl, trivial⟩, rfl⟩
      have begins : ChannelEvent.BeginWithAttempt [.unsent socket] := ⟨[], _, rfl, rfl⟩
      dsimp only at sending
      have reopens := Lifecycle.renew_reopens base
        ((lifecycle.error
          s!"Failed to send request to {lifecycle.endpoint.text}: {fault.message}").info
          "Re-creating zmq socket and trying again") middle
      split at sending
      · next error renewed last failed =>
          cases sending
          rw [failed] at reopens
          obtain ⟨event, -, second⟩ := reopens.uses (some socket) message
          refine ⟨_, first.trans second, begins.append [event], ?_⟩
          rintro found ⟨⟩
      · next fresh renewed opened reopened =>
          rw [reopened] at reopens
          have holds : renewed.socket = some fresh := by
            cases reopens with
            | ready holds grows => exact holds
          obtain ⟨event, -, second⟩ := reopens.uses (some socket) message
          rw [holds] at second
          have again := send_grows base fresh opened message false
          unfold resend at sending
          split at sending
          · next last accepted =>
              cases sending
              rw [accepted] at again
              refine ⟨_, (first.trans second).trans ⟨again, ⟨rfl, rfl, trivial⟩, holds⟩,
                (begins.append [event]).append _, ?_⟩
              intro last _
              exact ⟨fresh, List.mem_append_left _ List.mem_cons_self⟩
          · next fault last refused =>
              cases sending
              rw [refused] at again
              refine ⟨_, (first.trans second).trans ⟨again, ⟨rfl, trivial⟩, holds⟩,
                (begins.append [event]).append _, ?_⟩
              rintro found ⟨⟩

theorem failReceive_uses (base : Fabric σ) (fault : SocketFault) (lifecycle : Lifecycle)
    (message : ByteArray) (alarmed : Alarmed σ) :
    ∃ deeds, Uses alarmed lifecycle.socket message deeds
      (failReceive (fabric base) fault lifecycle alarmed).2.1.socket
      (failReceive (fabric base) fault lifecycle alarmed).2.2 := by
  exact Lifecycle.recover_uses base (lifecycle.error _) alarmed message

theorem joinFollowing_grows (base : Fabric σ) (socket : SocketId) (count : Nat)
    (payload : ByteArray) (alarmed : Alarmed σ) :
    alarmed.Grows [] ((fabric base).joinFollowing socket count payload alarmed).2 := by
  induction count generalizing payload alarmed with
  | zero => exact .refl alarmed
  | succ count ih =>
      have read := receive_grows base socket alarmed
      rw [Fabric.joinFollowing]
      cases received : (fabric base).receive socket alarmed with
      | mk result middle =>
          rw [received] at read
          cases result with
          | error fault => exact read
          | ok frame => exact read.trans (ih _ middle)

theorem receiveJoined_grows (base : Fabric σ) (socket : SocketId) (alarmed : Alarmed σ) :
    alarmed.Grows [] ((fabric base).receiveJoined socket alarmed).2 := by
  have read := receive_grows base socket alarmed
  unfold Fabric.receiveJoined
  cases received : (fabric base).receive socket alarmed with
  | mk result middle =>
      rw [received] at read
      cases result with
      | error fault => exact read
      | ok frame => exact read.trans (joinFollowing_grows base _ _ _ middle)

theorem pollReadable_grows (base : Fabric σ) (socket : SocketId) (wait : Wait)
    (alarmed : Alarmed σ) :
    alarmed.Grows [] ((fabric base).pollReadable socket wait alarmed).2 := by
  have polled := poll_grows base socket alarmed .readable wait
  unfold Fabric.pollReadable
  split
  · next middle interrupted => rwa [interrupted] at polled
  · exact polled

theorem readReply_uses (base : Fabric σ) (socket : SocketId) (lifecycle : Lifecycle)
    (message : ByteArray) (alarmed : Alarmed σ) :
    ∃ deeds, Uses alarmed lifecycle.socket message deeds
      (readReply (fabric base) socket lifecycle alarmed).2.1.socket
      (readReply (fabric base) socket lifecycle alarmed).2.2 := by
  have read := receiveJoined_grows base socket alarmed
  unfold readReply
  cases received : (fabric base).receiveJoined socket alarmed with
  | mk result middle =>
      rw [received] at read
      cases result with
      | ok reply => exact ⟨[], .quiet read _ _⟩
      | error fault =>
          obtain ⟨deeds, uses⟩ := failReceive_uses base fault lifecycle message middle
          exact ⟨deeds, .after_quiet read uses⟩

def IsApart (base : Fabric σ) (preempt : Option (Preempt (Alarmed σ))) : Prop :=
  ∀ ask, preempt = some ask → ∃ source, ask = asking base source

theorem IsApart.watched {preempt : Option (Preempt (Alarmed σ))} (apart : IsApart base preempt)
    (bits : UInt32) : IsApart base (Requester.watched preempt bits) := by
  unfold Requester.watched
  split
  · rintro ask ⟨⟩
  · exact apart

theorem isApart_unwatched (base : Fabric σ) (preempt : Option (Preempt (Alarmed σ))) :
    IsApart base (Requester.watched preempt 0) := by
  rintro ask ⟨⟩

theorem askWatched_grows {watching : Option (Preempt (Alarmed σ))} (apart : IsApart base watching)
    (bits : UInt32) (alarmed : Alarmed σ) :
    alarmed.Grows [] (askWatched watching bits alarmed).2 := by
  cases watching with
  | none => exact .refl alarmed
  | some ask =>
      obtain ⟨source, rfl⟩ := apart ask rfl
      exact quiet_grows (source bits) alarmed

/-- While it waits for its reply a call sends nothing; at most it replaces the socket at the end. -/
theorem awaitReply_uses {watching : Option (Preempt (Alarmed σ))} (apart : IsApart base watching)
    {interval : Duration} {call : Call} {started : Nat} {deadline : Option Deadline}
    {socket : SocketId} {fuel : Nat} {result : Except LinkError ByteArray} {waited : Lifecycle}
    {after : Alarmed σ} (message : ByteArray)
    (returned : awaitReply (fabric base) watching interval call started deadline socket fuel
      lifecycle alarmed = some (result, waited, after)) :
    ∃ deeds, Uses alarmed lifecycle.socket message deeds waited.socket after := by
  induction fuel generalizing alarmed with
  | zero => cases returned
  | succ fuel ih =>
      rw [awaitReply] at returned
      have asked := askWatched_grows apart call.bits alarmed
      cases parts : askWatched watching call.bits alarmed with
      | mk answer middle =>
          rw [parts] at asked returned
          cases answer with
          | true =>
              cases returned
              exact ⟨[], .quiet asked _ _⟩
          | false =>
              dsimp only at asked returned
              split at returned
              · cases returned
                exact ⟨[], .quiet asked _ _⟩
              · next wait _ =>
                  have polled := pollReadable_grows base socket wait middle
                  have still := asked.trans polled
                  split at returned
                  · next last ready =>
                      rw [ready] at still
                      obtain ⟨deeds, uses⟩ := readReply_uses base socket lifecycle
                        message last
                      rw [Option.some.inj returned] at uses
                      exact ⟨deeds, .after_quiet still uses⟩
                  · next last idle =>
                      rw [idle] at still
                      obtain ⟨deeds, uses⟩ := ih returned
                      exact ⟨deeds, .after_quiet still uses⟩
                  · next fault last failed =>
                      rw [failed] at still
                      obtain ⟨deeds, uses⟩ := failReceive_uses base fault lifecycle
                        message last
                      rw [Option.some.inj returned] at uses
                      exact ⟨deeds, .after_quiet still uses⟩

/-- A call that does anything begins with an attempt to send; only what was sent has a reply. -/
theorem callBytes_uses {client called : Requester (Alarmed σ)} {call : Call}
    (apart : IsApart base (Requester.watched client.preempt call.bits)) {fuel : Nat}
    {result : Except LinkError ByteArray} {after : Alarmed σ}
    (returned : client.callBytes (fabric base) fuel call alarmed = some (result, called, after)) :
    ∃ deeds,
      Uses alarmed client.lifecycle.socket call.message deeds called.lifecycle.socket after ∧
      ((deeds = [] ∧ ∃ error, result = .error error) ∨ ChannelEvent.BeginWithAttempt deeds) ∧
      called.preempt = client.preempt ∧
      ∀ reply, result = .ok reply → ∃ socket, .sent socket call.message ∈ deeds := by
  unfold callBytes at returned
  dsimp only at returned
  split at returned
  · cases returned
    exact ⟨[], .refl _ _ _, Or.inl ⟨rfl, _, rfl⟩, rfl, nofun⟩
  · unfold Lifecycle.live at returned
    cases holds : client.lifecycle.socket with
    | none =>
        rw [holds] at returned
        cases returned
        exact ⟨[], by simpa [holds] using Uses.refl alarmed client.lifecycle.socket call.message,
          Or.inl ⟨rfl, _, rfl⟩, rfl, nofun⟩
    | some socket =>
        rw [holds] at returned
        obtain ⟨⟨outcome, lifecycle, last⟩, exchanged, same⟩ :=
          Option.map_eq_some_iff.mp returned
        cases same
        unfold exchange at exchanged
        rw [← holds]
        split at exchanged
        · next error sender middle sending =>
            cases exchanged
            obtain ⟨deeds, uses, begins, -⟩ := sendWithRecovery_uses holds sending
            exact ⟨deeds, uses, Or.inr begins, rfl, nofun⟩
        · next fresh sender middle sending =>
            obtain ⟨deeds, uses, begins, isSent⟩ := sendWithRecovery_uses holds sending
            obtain ⟨more, waits⟩ := awaitReply_uses apart call.message exchanged
            refine ⟨_, uses.trans waits, Or.inr (begins.append more), rfl, ?_⟩
            intro reply _
            obtain ⟨socket, isSent⟩ := isSent fresh rfl
            exact ⟨socket, List.mem_append_right _ isSent⟩

end Requester

/-! ## Commands -/

namespace TaskSession

variable {session after : TaskSession (Alarmed σ)} {alarmed last : Alarmed σ}

theorem renew_reopens (base : Fabric σ) (session : TaskSession (Alarmed σ))
    (alarmed : Alarmed σ) :
    ∃ result opened,
      Reopens alarmed session.client.lifecycle result opened
        (session.renew (fabric base) alarmed).2.2 ∧
      (session.renew (fabric base) alarmed).1 =
        (match result with | .ok _ => .ok () | .error error => .error (.link error)) ∧
      (session.renew (fabric base) alarmed).2.1 =
        { session with client := { session.client with lifecycle := opened } } := by
  have reopens := session.client.lifecycle.renew_reopens base alarmed
  unfold renew
  generalize session.client.lifecycle.renew (fabric base) alarmed = renewed at *
  obtain ⟨result, opened, last⟩ := renewed
  refine ⟨result, opened, ?_⟩
  cases result <;> exact ⟨reopens, rfl, rfl⟩

/-- Only a missing reply makes a session replace its socket afterwards. -/
theorem renewAfter_uses (base : Fabric σ) (error : SessionError) (session : TaskSession (Alarmed σ))
    (alarmed : Alarmed σ) (message : ByteArray) :
    ∃ deeds,
      Uses alarmed session.client.lifecycle.socket message deeds
        (renewAfter (fabric base) error session alarmed).1.client.lifecycle.socket
        (renewAfter (fabric base) error session alarmed).2 ∧
      (error.code = .noResponse ∨ deeds = []) ∧
      (renewAfter (fabric base) error session alarmed).1.watcher = session.watcher ∧
      (renewAfter (fabric base) error session alarmed).1.client.preempt =
        session.client.preempt := by
  unfold renewAfter
  split
  · next missing =>
      obtain ⟨result, opened, reopens, -, same⟩ := renew_reopens base session alarmed
      obtain ⟨event, -, uses⟩ := reopens.uses session.client.lifecycle.socket message
      refine ⟨[event], ?_, Or.inl missing, ?_, ?_⟩ <;> dsimp only <;> rw [same]
      exact uses
  · exact ⟨[], .refl _ _ _, Or.inr rfl, rfl, rfl⟩

/-- Whatever becomes of a command, it begins with an attempt to send if anything is done at all. -/
theorem transmit_uses (session : TaskSession (Alarmed σ)) {bits : UInt32}
    (apart : Requester.IsApart base (Requester.watched session.client.preempt bits)) {fuel : Nat}
    {command : String} {timeout : Option Duration} {outcome : Except SessionError String}
    (returned : transmit (fabric base) session fuel command timeout bits alarmed =
      some (outcome, after, last)) :
    ∃ deeds,
      Uses alarmed session.client.lifecycle.socket command.toUTF8 deeds
        after.client.lifecycle.socket last ∧
      (deeds = [] ∨ ChannelEvent.BeginWithAttempt deeds) ∧
      after.watcher = session.watcher ∧ after.client.preempt = session.client.preempt ∧
      ∀ reply, outcome = .ok reply → ∃ socket, .sent socket command.toUTF8 ∈ deeds := by
  obtain ⟨⟨result, client, middle⟩, called, same⟩ := Option.map_eq_some_iff.mp returned
  obtain ⟨⟨reply, client', middle'⟩, exchanged, same'⟩ := Option.map_eq_some_iff.mp called
  cases same'
  obtain ⟨deeds, uses, begins, preempt, isSent⟩ := Requester.callBytes_uses apart exchanged
  have begun : deeds = [] ∨ ChannelEvent.BeginWithAttempt deeds := begins.imp_left And.left
  dsimp only at same uses
  split at same
  · next checked =>
      cases same
      refine ⟨deeds, uses, begun, rfl, preempt, fun _ _ => ?_⟩
      cases reply with
      | error fault => cases checked
      | ok bytes => exact isSent bytes rfl
  · next error checked =>
      cases same
      obtain ⟨more, renews, onlyMissing, watcher, preempt'⟩ := renewAfter_uses base error
        { session with client := client } middle command.toUTF8
      refine ⟨more ++ deeds, uses.trans renews, ?_, watcher, preempt'.trans preempt, nofun⟩
      rcases begins with ⟨rfl, fault, rfl⟩ | begins
      · -- A call that did nothing failed, and no failed call counts as a missing reply.
        cases checked
        rcases onlyMissing with missing | rfl
        · exact absurd missing fault.code_ne_noResponse
        · exact Or.inl rfl
      · exact Or.inr (begins.append more)

/--
What a session does for a command once it has checked for a request.  Without
one it goes on with the socket it holds; with one it first replaces that
socket, and gives up if it cannot.
-/
inductive Heeds {α : Type} (lifecycle : Lifecycle) (message : ByteArray) :
    Bool → Except SessionError α → List ChannelEvent → Prop where
  | unasked {outcome : Except SessionError α} {sending : List ChannelEvent}
      (isOver : ChannelEvent.AreOver lifecycle.socket message sending)
      (begins : sending = [] ∨ ChannelEvent.BeginWithAttempt sending) :
      Heeds lifecycle message false outcome sending
  | rebuilt {fresh : SocketId} {outcome : Except SessionError α} {sending : List ChannelEvent}
      (isOver : ChannelEvent.AreOver (some fresh) message sending)
      (begins : sending = [] ∨ ChannelEvent.BeginWithAttempt sending) :
      Heeds lifecycle message true outcome (sending ++ [.opened fresh])
  | refused {fault : OpenFault} :
      Heeds lifecycle message true (.error (.link (lifecycle.openError fault))) [.refused fault]

namespace Heeds

variable {α : Type} {lifecycle : Lifecycle} {message : ByteArray} {requested : Bool}
  {outcome : Except SessionError α} {deeds : List ChannelEvent}

/-- What is sent is the message, over the socket that was opened last. -/
theorem isOver (heeds : Heeds lifecycle message requested outcome deeds) :
    ChannelEvent.AreOver (if requested then none else lifecycle.socket) message deeds := by
  cases heeds with
  | unasked isOver begins => exact isOver
  | rebuilt isOver begins => exact isOver.after_opening none
  | refused => trivial

theorem untaken (heeds : Heeds lifecycle message requested outcome deeds) (taken : Bool) :
    .taken taken ∉ deeds :=
  heeds.isOver.untaken taken

/-- An outcome that passes on every error is as heedful. -/
theorem of_passed {β : Type} {outcome' : Except SessionError β}
    (heeds : Heeds lifecycle message requested outcome deeds)
    (passes : ∀ error, outcome = .error error → outcome' = .error error) :
    Heeds lifecycle message requested outcome' deeds := by
  cases heeds with
  | unasked isOver begins => exact .unasked isOver begins
  | rebuilt isOver begins => exact .rebuilt isOver begins
  | refused =>
      rw [passes _ rfl]
      exact .refused

end Heeds

structure IsWatched (base : Fabric σ) (session : TaskSession (Alarmed σ)) (alarmed : Alarmed σ) :
    Prop where
  watched : session.watcher.isSome = true
  apart : Requester.IsApart base session.client.preempt
  flag : alarmed.vigil.requested = ChannelEvent.pending alarmed.history

/--
What a command did about the requests of the monitor.  `waiting` came before
its check and `since` after it; what came after it is left for the next check.
-/
structure Checks {α : Type} (session : TaskSession (Alarmed σ)) (before : Alarmed σ)
    (message : ByteArray) (outcome : Except SessionError α) (waiting since : List ChannelEvent)
    (last : Alarmed σ) : Prop where
  history : last.history =
    since ++ .taken (ChannelEvent.pending (waiting ++ before.history)) ::
      (waiting ++ before.history)
  raises : ∀ event ∈ waiting, event = .raised
  heeds : Heeds session.client.lifecycle message
    (ChannelEvent.pending (waiting ++ before.history)) outcome
    (since.filter ChannelEvent.isSessions)
  left : ChannelEvent.pending last.history = true ↔ .raised ∈ since

theorem Checks.of_passed {α β : Type} {before : Alarmed σ} {message : ByteArray}
    {outcome : Except SessionError α} {outcome' : Except SessionError β}
    {waiting since : List ChannelEvent}
    (checks : Checks session before message outcome waiting since last)
    (passes : ∀ error, outcome = .error error → outcome' = .error error) :
    Checks session before message outcome' waiting since last where
  history := checks.history
  raises := checks.raises
  heeds := checks.heeds.of_passed passes
  left := checks.left

theorem Checks.of_heeds {α : Type} {before middle : Alarmed σ} {message : ByteArray}
    {outcome : Except SessionError α} {waiting deeds : List ChannelEvent}
    (raises : ∀ event ∈ waiting, event = .raised)
    (history : middle.history =
      .taken (ChannelEvent.pending (waiting ++ before.history)) :: (waiting ++ before.history))
    (taken : middle.vigil.requested = false) (grows : middle.Grows deeds last)
    (heeds : Heeds session.client.lifecycle message
      (ChannelEvent.pending (waiting ++ before.history)) outcome deeds) :
    (∃ since, Checks session before message outcome waiting since last) ∧
      last.vigil.requested = ChannelEvent.pending last.history := by
  obtain ⟨since, whole, rfl, flag⟩ := grows
  have untaken : ∀ requested, .taken requested ∉ since := by
    intro requested member
    exact heeds.untaken requested (List.mem_filter.mpr ⟨member, rfl⟩)
  have left : ChannelEvent.pending last.history = since.any ChannelEvent.isRaise := by
    rw [whole, ChannelEvent.pending_append untaken, history]
    exact Bool.or_false _
  refine ⟨⟨since, whole.trans (by rw [history]), raises, heeds, ?_⟩, ?_⟩
  · rw [left, List.any_eq_true]
    constructor
    · rintro ⟨event, member, isRaise⟩
      cases event with
      | raised => exact member
      | _ => cases isRaise
    · intro member
      exact ⟨.raised, member, rfl⟩
  · rw [flag, taken, left, Bool.or_false]

/-- A command takes the request that waits for it, and heeds it. -/
theorem executeRaw_checks (watched : IsWatched base session alarmed) {fuel : Nat}
    {command : String} {timeout : Option Duration} {bits : UInt32}
    {outcome : Except SessionError String}
    (returned : session.executeRaw (fabric base) (watchers base) fuel command timeout bits alarmed =
      some (outcome, after, last)) :
    (∃ waiting since, Checks session alarmed command.toUTF8 outcome waiting since last) ∧
      IsWatched base after last := by
  obtain ⟨isWatched, apart, flag⟩ := watched
  obtain ⟨watcher, isWatcher⟩ := Option.isSome_iff_exists.mp isWatched
  obtain ⟨waiting, raises, requested, history, taken⟩ :=
    takeRequest_cases base alarmed flag
  unfold executeRaw renewIfRequested at returned
  rw [isWatcher] at returned
  dsimp only [watchers] at returned
  generalize takeRequest base alarmed = check at *
  obtain ⟨request, middle⟩ := check
  dsimp only at requested history taken
  subst requested
  cases request : ChannelEvent.pending (waiting ++ alarmed.history) with
  | false =>
      rw [request] at returned
      obtain ⟨deeds, uses, begins, watcher', preempt, -⟩ :=
        transmit_uses session (apart.watched bits) returned
      have heeds : Heeds session.client.lifecycle command.toUTF8 false outcome deeds :=
        .unasked uses.isOver begins
      rw [← request] at heeds
      obtain ⟨⟨since, checks⟩, flag'⟩ := Checks.of_heeds raises history taken uses.grows heeds
      refine ⟨⟨waiting, since, checks⟩, ?_, ?_, flag'⟩
      · rw [watcher', isWatcher]
        rfl
      · rwa [preempt]
  | true =>
      rw [request] at returned
      dsimp only at returned
      obtain ⟨result, opened, reopens, result_eq, session_eq⟩ :=
        renew_reopens base session middle
      generalize session.renew (fabric base) middle = renewed at *
      obtain ⟨outcome', session', middle'⟩ := renewed
      dsimp only at reopens result_eq session_eq
      subst result_eq session_eq
      cases reopens with
      | ready holds grows =>
          dsimp only at returned
          obtain ⟨deeds, uses, begins, watcher', preempt, -⟩ := transmit_uses
            { session with client := { session.client with lifecycle := opened } }
            (apart.watched bits) returned
          have isOver := uses.isOver
          dsimp only at isOver
          rw [holds] at isOver
          have heeds : Heeds session.client.lifecycle command.toUTF8 true outcome _ :=
            .rebuilt isOver begins
          rw [← request] at heeds
          obtain ⟨⟨since, checks⟩, flag'⟩ :=
            Checks.of_heeds raises history taken (grows.trans uses.grows) heeds
          refine ⟨⟨waiting, since, checks⟩, ?_, ?_, flag'⟩
          · rw [watcher']
            exact isWatched
          · rwa [preempt]
      | @failed fault _ _ holds grows =>
          cases returned
          have heeds : Heeds session.client.lifecycle command.toUTF8 true
              (.error (.link (session.client.lifecycle.openError fault)) :
                Except SessionError String) [.refused fault] := .refused
          rw [← request] at heeds
          obtain ⟨⟨since, checks⟩, flag'⟩ := Checks.of_heeds raises history taken grows heeds
          exact ⟨⟨waiting, since, checks⟩, isWatched, apart, flag'⟩

end TaskSession

/-! ## Runs -/

namespace SessionCommand

variable {session after : TaskSession (Alarmed σ)} {alarmed last : Alarmed σ}

/--
Whatever commands a session has carried out, and whenever its monitor made
requests, the next command finds a request exactly if one was made since the
last check.  It then replaces the socket once and sends only over the new one,
or sends nothing and returns the error; without a request it keeps its socket
until a message was refused.  A request that is made after the check is there
for the check that follows.
-/
theorem requests_are_heeded (watched : session.IsWatched base alarmed)
    {commands : List SessionCommand} {reached : TaskSession (Alarmed σ)} {before : Alarmed σ}
    (ran : run (fabric base) (watchers base) session alarmed commands = some (reached, before))
    {command : SessionCommand} {outcome : Except SessionError (String ⊕ Json)}
    (performed : command.perform (fabric base) (watchers base) reached before =
      some (outcome, after, last)) :
    ∃ waiting since,
      reached.Checks before (command.message reached) outcome waiting since last ∧
      ∀ later socket payload earlier, since = later ++ .sent socket payload :: earlier →
        payload = command.message reached ∧
          (ChannelEvent.pending (waiting ++ before.history) = true →
            .opened socket ∈ earlier) := by
  have watched := run_keeps (fun session alarmed => session.IsWatched base alarmed)
    (fun _ _ _ _ _ _ _ _ _ watched returned => (TaskSession.executeRaw_checks watched returned).2)
    watched ran
  obtain ⟨polls, timeout, bits, result, returned, passes⟩ := perform_cases performed
  obtain ⟨⟨waiting, since, checks⟩, -⟩ := TaskSession.executeRaw_checks watched returned
  refine ⟨waiting, since, checks.of_passed passes, ?_⟩
  rintro later socket payload earlier rfl
  have isOver := checks.heeds.isOver
  rw [List.filter_append, List.filter_cons_of_pos rfl] at isOver
  obtain ⟨isCurrent, isMessage⟩ := isOver.of_sent
  refine ⟨isMessage, fun request => ?_⟩
  rw [request] at isCurrent
  exact (List.mem_filter.mp (ChannelEvent.opened_of_current isCurrent)).1

end SessionCommand

namespace SilentController

def options : SessionOptions :=
  { host := "localhost" }

/-- A monitor beside a session makes one request, just before the fourth operation. -/
def surroundings : Alarmed Network :=
  { surroundings := {}, vigil := { lastAlive := 0 }, alarms := [0, 0, 0, 1] }

def begun : Except SessionError (TaskSession (Alarmed Network)) × Alarmed Network :=
  match TaskSession.bind (fabric Network.fabric) options ⟨"scene", "slave"⟩ ⟨0⟩ surroundings with
  | (.ok session, alarmed) =>
      match session.startMonitor (watchers Network.fabric) alarmed with
      | (.ok (), session, alarmed) => (.ok session, alarmed)
      | (.error error, _, alarmed) => (.error error, alarmed)
  | failed => failed

def command : SessionCommand :=
  .raw 3 "stop" (some (.ofMillis 100)) 0

def brief : ChannelEvent → String × Option SocketId
  | .raised => ("raised", none)
  | .taken requested => (if requested then "taken" else "untaken", none)
  | .opened socket => ("opened", some socket)
  | .refused _ => ("refused", none)
  | .sent socket _ => ("sent", some socket)
  | .unsent socket => ("unsent", some socket)

/-- What is told when the command was carried out twice; the second finds a request. -/
def told : List (String × Option SocketId) :=
  [("sent", some ⟨1⟩), ("opened", some ⟨1⟩), ("taken", none), ("raised", none),
    ("sent", some ⟨0⟩), ("untaken", none), ("opened", some ⟨0⟩)]

def replacesOnce : Except SessionError (TaskSession (Alarmed Network)) × Alarmed Network → Bool
  | (.ok session, alarmed) =>
      session.watcher.isSome && session.client.preempt.isNone &&
        (alarmed.vigil.requested == ChannelEvent.pending alarmed.history) &&
        ((SessionCommand.run (fabric Network.fabric) (watchers Network.fabric) session alarmed
          [command, command]).map (·.2.history.map brief)) == some told
  | (.error _, _) => false

end SilentController

open SilentController in
/-- The request that is made while a command waits is heeded by the one after it. -/
theorem SessionCommand.requests_are_heeded_while_silent :
    ∃ session alarmed reached before outcome after last,
      begun = (.ok session, alarmed) ∧ session.IsWatched Network.fabric alarmed ∧
        run (fabric Network.fabric) (watchers Network.fabric) session alarmed [command] =
          some (reached, before) ∧
        command.perform (fabric Network.fabric) (watchers Network.fabric) reached before =
          some (outcome, after, last) ∧
        last.history.map brief = told ∧
        ∃ waiting since,
          reached.Checks before (command.message reached) outcome waiting since last := by
  have once : replacesOnce begun = true := by decide +kernel
  cases begins : begun with
  | mk result alarmed =>
      rw [begins] at once
      cases result with
      | error error => cases once
      | ok session =>
          simp only [replacesOnce, Bool.and_eq_true, beq_iff_eq, Option.isNone_iff_eq_none] at once
          obtain ⟨⟨⟨watched, unasked⟩, flag⟩, history⟩ := once
          have apart : Requester.IsApart Network.fabric session.client.preempt := by
            rw [unasked]
            rintro ask ⟨⟩
          obtain ⟨⟨after, last⟩, ran, isLast⟩ := Option.map_eq_some_iff.mp history
          obtain ⟨⟨first, reached, before⟩, performed, ran⟩ := Option.bind_eq_some_iff.mp ran
          obtain ⟨⟨outcome, after, last⟩, again, same⟩ := Option.bind_eq_some_iff.mp ran
          cases same
          have ran : run (fabric Network.fabric) (watchers Network.fabric) session alarmed
              [command] = some (reached, before) := Option.bind_eq_some_iff.mpr ⟨_, performed, rfl⟩
          have watched : session.IsWatched Network.fabric alarmed := ⟨watched, apart, flag⟩
          obtain ⟨waiting, since, checks, -⟩ := requests_are_heeded watched ran again
          exact ⟨session, alarmed, reached, before, outcome, after, last, rfl, watched, ran,
            again, isLast, waiting, since, checks⟩

end TaskLink
