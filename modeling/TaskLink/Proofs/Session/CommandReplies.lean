import TaskLink.Proofs.Messaging.ParleyRuns
import TaskLink.Proofs.Session.Commands
import TaskLink.Proofs.Session.ReplyVerdicts

/-!
# Replies to commands

A reply that arrives in time is returned as what it means.  The session keeps
its socket, which is ready for the next command; only after an empty reply it
replaces the socket, and if that succeeds the new one is ready.
-/

namespace TaskLink

/-! ## Arrival -/

namespace Requester

variable {σ : Type} (fabric : Fabric σ)

/--
A reply is announced and read before anything ends the wait for it: no watched
source asks to give up, and the deadline does not pass.
-/
inductive Arrives (watching : Option (Preempt σ)) (interval : Duration) (call : Call)
    (deadline : Option Deadline) (socket : SocketId) (reply : ByteArray) : Nat → σ → σ → Prop where
  | announced {polls : Nat} {s asked polled after : σ} {wait : Wait}
      (goesOn : askWatched watching call.bits s = (false, asked))
      (inTime : nextWait fabric watching.isSome interval deadline asked = .ok wait)
      (ready : fabric.pollReadable socket wait asked = (.ok true, polled))
      (received : fabric.receiveJoined socket polled = (.ok reply, after)) :
      Arrives watching interval call deadline socket reply (polls + 1) s after
  | later {polls : Nat} {s asked polled after : σ} {wait : Wait}
      (goesOn : askWatched watching call.bits s = (false, asked))
      (inTime : nextWait fabric watching.isSome interval deadline asked = .ok wait)
      (idle : fabric.pollReadable socket wait asked = (.ok false, polled))
      (arrives : Arrives watching interval call deadline socket reply polls polled after) :
      Arrives watching interval call deadline socket reply (polls + 1) s after

variable {fabric} {watching : Option (Preempt σ)} {interval : Duration} {call : Call}
  {started : Nat} {deadline : Option Deadline} {socket : SocketId} {reply : ByteArray}
  {fuel : Nat} {lifecycle : Lifecycle} {s after : σ}

theorem Arrives.awaitReply_eq
    (arrives : Arrives fabric watching interval call deadline socket reply fuel s after) :
    awaitReply fabric watching interval call started deadline socket fuel lifecycle s =
      some (.ok reply, lifecycle, after) := by
  induction arrives with
  | announced goesOn inTime ready received =>
      rw [awaitReply, goesOn]
      dsimp only
      rw [inTime]
      dsimp only
      rw [ready]
      dsimp only
      rw [readReply, received]
  | later goesOn inTime idle arrives ih =>
      rw [awaitReply, goesOn]
      dsimp only
      rw [inTime]
      dsimp only
      rw [idle]
      exact ih

/-- Only a reply that arrives ends the wait with success. -/
theorem arrives_of_awaitReply {waited : Lifecycle}
    (returned : awaitReply fabric watching interval call started deadline socket fuel lifecycle s =
      some (.ok reply, waited, after)) :
    waited = lifecycle ∧
      Arrives fabric watching interval call deadline socket reply fuel s after := by
  induction fuel generalizing s with
  | zero => cases returned
  | succ fuel ih =>
      rw [awaitReply] at returned
      split at returned
      · cases returned
      · next asked goesOn =>
          split at returned
          · cases returned
          · next wait inTime =>
              split at returned
              · next polled ready =>
                  unfold readReply at returned
                  split at returned
                  · next received =>
                      cases returned
                      exact ⟨rfl, .announced goesOn inTime ready received⟩
                  · cases returned
              · next polled idle =>
                  obtain ⟨same, arrives⟩ := ih returned
                  exact ⟨same, .later goesOn inTime idle arrives⟩
              · cases returned

variable (fabric)

/-- A call sends its message, and a reply to it arrives in time. -/
structure Obtains (client : Requester σ) (fuel : Nat) (call : Call) (reply : ByteArray) (s : σ)
    (after : Requester σ) (last : σ) : Prop where
  fits : call.message.size ≤ client.settings.maxMessageSize.toNat
  exchanges : ∃ held fresh sender sent,
    client.lifecycle.socket = some held ∧
    sendWithRecovery fabric call.message held client.lifecycle s = (.ok fresh, sender, sent) ∧
    Arrives fabric (watched client.preempt call.bits) client.settings.pollInterval call
      (call.timeout.bind (fabric.deadline · sent)) fresh reply fuel sent last ∧
    after = { client with lifecycle := sender }

variable {fabric} {client called : Requester σ}

theorem obtains_iff :
    client.Obtains fabric fuel call reply s called after ↔
      client.callBytes fabric fuel call s = some (.ok reply, called, after) := by
  constructor
  · rintro ⟨fits, held, fresh, sender, sent, isHeld, sending, arrives, rfl⟩
    unfold callBytes Lifecycle.live
    rw [isHeld]
    dsimp only
    rw [if_neg (Nat.not_lt.mpr fits), exchange, sending]
    dsimp only
    rw [arrives.awaitReply_eq]
    rfl
  · intro returned
    unfold callBytes Lifecycle.live at returned
    dsimp only at returned
    split at returned
    · cases returned
    · next fits =>
        cases isHeld : client.lifecycle.socket with
        | none =>
            rw [isHeld] at returned
            cases returned
        | some held =>
            rw [isHeld] at returned
            obtain ⟨⟨result, waited, last⟩, exchanged, same⟩ :=
              Option.map_eq_some_iff.mp returned
            cases same
            unfold exchange at exchanged
            split at exchanged
            · cases exchanged
            · next fresh sender sent sending =>
                obtain ⟨rfl, arrives⟩ := arrives_of_awaitReply exchanged
                exact ⟨Nat.le_of_not_lt fits, held, fresh, _, sent, isHeld, sending, arrives,
                  rfl⟩

end Requester

/-! ## After a reply -/

namespace TaskSession

variable {σ : Type} {fabric : Fabric σ}

def answered (fabric : Fabric σ) (session : TaskSession σ) (reply : ByteArray)
    (client : Requester σ) (s : σ) : TaskSession σ × σ :=
  if reply.isEmpty then ({ session with client := client }.renew fabric s).2
  else ({ session with client := client }, s)

theorem isEmpty_iff_eq_toUTF8 (reply : ByteArray) : reply.isEmpty = true ↔ reply = "".toUTF8 := by
  simp [ByteArray.isEmpty]

/-- A result that is not an answer to an empty reply leaves the session as it is. -/
theorem renewAfter_checkReply {command : String} {reply : ByteArray} {error : SessionError}
    (checked : checkReply command (Requester.replyText reply) = .error error)
    (session : TaskSession σ) (s : σ) :
    renewAfter fabric error session s =
      if reply.isEmpty then (session.renew fabric s).2 else (session, s) := by
  have hears := hears_checkReply command reply
  rw [checked] at hears
  unfold renewAfter
  cases hears with
  | garbled notText isFault =>
      rw [if_neg fun empty => notText "" ((isEmpty_iff_eq_toUTF8 reply).mp empty)]
      exact if_neg nofun
  | missing empty =>
      rw [if_pos ((isEmpty_iff_eq_toUTF8 reply).mpr empty)]
      exact if_pos rfl

theorem transmit_eq {session : TaskSession σ} {fuel : Nat} {command : String}
    {timeout : Option Duration} {bits : UInt32} {reply : ByteArray} {client : Requester σ}
    {s last : σ}
    (obtains : session.client.Obtains fabric fuel
      { message := command.toUTF8, timeout := timeout, bits := bits } reply s client last) :
    transmit fabric session fuel command timeout bits s =
      some (checkReply command (Requester.replyText reply),
        answered fabric session reply client last) := by
  unfold transmit Requester.call answered
  dsimp only
  rw [Requester.obtains_iff.mp obtains, Option.map_some, Option.map_some]
  dsimp only [Except.bind]
  cases checked : checkReply command (Requester.replyText reply) with
  | ok text =>
      have hears := hears_checkReply command reply
      rw [checked] at hears
      cases hears with
      | text isText nonempty =>
          have present : ¬ reply.isEmpty = true := by
            rw [isEmpty_iff_eq_toUTF8, isText]
            exact fun same => nonempty (String.toByteArray_inj.mp same)
          dsimp only
          rw [if_neg present]
  | error error =>
      dsimp only
      rw [renewAfter_checkReply checked]

variable {watchers : Watchers σ} {session ready : TaskSession σ} {s checked last : σ}

/-- What is made of a reply to a raw command: its text as it is. -/
theorem executeRaw_answered {fuel : Nat} {command : String} {timeout : Option Duration}
    {bits : UInt32} {reply : ByteArray} {client : Requester σ}
    (checks : session.renewIfRequested fabric watchers s = (.ok (), ready, checked))
    (obtains : ready.client.Obtains fabric fuel
      { message := command.toUTF8, timeout := timeout, bits := bits } reply checked client last) :
    ∃ outcome,
      session.executeRaw fabric watchers fuel command timeout bits s =
        some (outcome, ready.answered fabric reply client last) ∧
      ∀ result, Hears command reply result ↔ result = outcome := by
  refine ⟨checkReply command (Requester.replyText reply), ?_, fun result => ⟨?_, ?_⟩⟩
  · unfold executeRaw
    rw [checks]
    exact transmit_eq obtains
  · exact Hears.eq_checkReply
  · rintro rfl
    exact hears_checkReply command reply

/-- What is made of a reply to a command in its envelope. -/
theorem execute_answered {fuel : Nat} {parameters : Json} {timeout : Option Duration}
    {reply : ByteArray} {client : Requester σ}
    (checks : session.renewIfRequested fabric watchers s = (.ok (), ready, checked))
    (obtains : ready.client.Obtains fabric fuel
      { message := (session.commandEnvelope parameters).compact.toUTF8, timeout := timeout }
      reply checked client last) :
    ∃ outcome,
      session.execute fabric watchers fuel parameters timeout s =
        some (outcome, ready.answered fabric reply client last) ∧
      ∀ result,
        Means (session.commandEnvelope parameters).compact reply result ↔ result = outcome := by
  refine ⟨_, ?_, fun result => means_iff⟩
  unfold execute executeRaw
  dsimp only
  rw [checks]
  dsimp only
  rw [transmit_eq obtains]
  rfl

end TaskSession

/-! ## Sessions amid their surroundings -/

/-- A monitor that is laid down: whether it has asked is what the preemption source answers next. -/
def Parley.watchers : Watchers Parley where
  start _ _ _ _ parley := (.ok ⟨0⟩, parley)
  stop _ parley := parley
  takeRequest _ := ask 0
  latest _ _ := none

namespace TaskSession

variable {session after : TaskSession Parley} {parley last : Parley}
  {held : Option (SocketId × Stand)}

def Stands (session : TaskSession Parley) (parley : Parley) : Prop :=
  ∃ held, Conversation.Stands ⟨session.client, parley⟩ held

def HoldsOpened (session : TaskSession Parley) (before after : Parley) : Prop :=
  ∃ id, session.client.lifecycle.socket = some id ∧ after.deeds = .opened id :: before.deeds

/-- A session's client after its socket was replaced: the new one is ready if that succeeded. -/
theorem Stands.renew (stands : session.Stands parley) :
    (session.renew Parley.fabric parley).2.1.Stands (session.renew Parley.fabric parley).2.2 ∧
      ((session.renew Parley.fabric parley).1 = .ok () →
        (session.renew Parley.fabric parley).2.1.HoldsOpened parley
            (session.renew Parley.fabric parley).2.2 ∧
          (session.renew Parley.fabric parley).2.1.client.lifecycle.IsReadyIn
            (session.renew Parley.fabric parley).2.2) := by
  obtain ⟨held, stands⟩ := stands
  have opens := session.client.lifecycle.renew_opens stands.role stands.attends stands.socket
  unfold TaskSession.renew
  dsimp only at opens
  generalize session.client.lifecycle.renew Parley.fabric parley = renewed at *
  obtain ⟨result, opened, after⟩ := renewed
  obtain ⟨held', -, -, standing⟩ := stands.of_opens stands.attends.leads opens
  dsimp only at opens
  cases opens with
  | ready socket role resends leads =>
      exact ⟨⟨held', standing⟩, fun _ => ⟨⟨_, socket, leads.deeds_eq⟩,
        Lifecycle.isReadyIn_of_attends leads.attends socket⟩⟩
  | failed socket role resends leads => exact ⟨⟨held', standing⟩, nofun⟩

theorem Stands.renewIfRequested (stands : session.Stands parley) :
    (session.renewIfRequested Parley.fabric Parley.watchers parley).2.1.Stands
      (session.renewIfRequested Parley.fabric Parley.watchers parley).2.2 := by
  unfold TaskSession.renewIfRequested
  split
  · exact stands
  · next watcher _ =>
      obtain ⟨held, stands⟩ := stands
      have asked := (stands.attends.ask 0).attends
      unfold Parley.watchers
      dsimp only
      have standing : session.Stands (Parley.ask 0 parley).2 :=
        ⟨held, asked, stands.role, stands.socket, stands.whole, stands.source⟩
      split
      · next after taken =>
          rw [taken] at standing
          exact standing.renew.1
      · next after taken =>
          rw [taken] at standing
          exact standing

theorem transmit_stands (stands : session.Stands parley) {fuel : Nat} {command : String}
    {timeout : Option Duration} {bits : UInt32} {outcome : Except SessionError String}
    (returned : transmit Parley.fabric session fuel command timeout bits parley =
      some (outcome, after, last)) : after.Stands last := by
  obtain ⟨held, stands⟩ := stands
  obtain ⟨⟨result, client, middle⟩, called, same⟩ := Option.map_eq_some_iff.mp returned
  obtain ⟨⟨reply, client', middle'⟩, exchanged, same'⟩ := Option.map_eq_some_iff.mp called
  cases same'
  obtain ⟨held', -, -, standing⟩ := (stands.calls exchanged).stands stands
  have standing : Stands { session with client := client } middle := ⟨held', standing⟩
  dsimp only at same
  split at same
  · cases same
    exact standing
  · next error _ =>
      cases same
      unfold renewAfter
      split
      · exact standing.renew.1
      · exact standing

/-- A session whose client stands well goes on to do so, whatever becomes of a command. -/
theorem executeRaw_stands (stands : session.Stands parley) {fuel : Nat} {command : String}
    {timeout : Option Duration} {bits : UInt32} {outcome : Except SessionError String}
    (returned : session.executeRaw Parley.fabric Parley.watchers fuel command timeout bits parley =
      some (outcome, after, last)) : after.Stands last := by
  have checked := stands.renewIfRequested
  unfold executeRaw at returned
  split at returned
  · next error ready middle failed =>
      cases returned
      rw [failed] at checked
      exact checked
  · next ready middle passed =>
      rw [passed] at checked
      exact transmit_stands checked returned

def attended (session : TaskSession Parley) (asked : Bool) (watcher : Option WatcherId) :
    TaskSession Parley :=
  { session with
    client := { session.client with preempt := Parley.source asked }, watcher := watcher }

/-- A session that was just bound stands well, whatever it is attended by. -/
theorem stands_of_bind (begins : parley.Begins) {options : SessionOptions}
    {identity : SessionIdentity} {context : ContextId}
    (bound : bind Parley.fabric options identity context parley = (.ok session, last))
    (asked : Bool) (watcher : Option WatcherId) : (session.attended asked watcher).Stands last := by
  unfold bind at bound
  split at bound
  · cases bound
  · next client created =>
      have new : Conversation.Begins ⟨client, parley⟩ := ⟨⟨_, _, false, created⟩, begins⟩
      have stands := new.stands
      have opens := client.lifecycle.establish_opens stands.role stands.attends stands.socket
        (some context)
      split at bound
      · cases bound
      · next id opened after established =>
          cases bound
          rw [established] at opens
          obtain ⟨held, -, -, standing⟩ := stands.of_opens stands.attends.leads opens
          exact ⟨held, standing.attends, standing.role, standing.socket, standing.whole,
            Parley.eq_ask_of_source⟩

/-! ## Ready for the next command -/

/-- Once a reply was returned the socket is ready to send again. -/
theorem isReadyIn_of_reply (stands : session.Stands parley) {fuel : Nat} {call : Call}
    {reply : ByteArray} {client : Requester Parley}
    (returned : session.client.callBytes Parley.fabric fuel call parley =
      some (.ok reply, client, last)) : client.lifecycle.IsReadyIn last := by
  obtain ⟨held, stands⟩ := stands
  have calls := stands.calls returned
  cases calls with
  | sent isHeld sends accepted concludes =>
      cases concludes with
      | replied leads answered =>
          refine Lifecycle.isReadyIn_of_attends leads.attends ?_
          cases accepted with
          | direct isReady leads =>
              rw [← stands.socket, isHeld]
              rfl
          | resent socket role resends leads => exact socket

/-- What a reply leaves behind: the socket as it is, or a new one if the reply was empty. -/
structure LeavesReady (session : TaskSession Parley) (reply : ByteArray)
    (client : Requester Parley) (last : Parley) : Prop where
  kept : reply ≠ "".toUTF8 →
    session.answered Parley.fabric reply client last = ({ session with client := client }, last) ∧
      client.lifecycle.IsReadyIn last
  replaced : reply = "".toUTF8 →
    let renewed := { session with client := client }.renew Parley.fabric last
    session.answered Parley.fabric reply client last = renewed.2 ∧
      (renewed.1 = .ok () → renewed.2.1.HoldsOpened last renewed.2.2 ∧
        renewed.2.1.client.lifecycle.IsReadyIn renewed.2.2)

theorem leavesReady (stands : session.Stands parley) {fuel : Nat} {call : Call}
    {reply : ByteArray} {client : Requester Parley}
    (obtains : session.client.Obtains Parley.fabric fuel call reply parley client last) :
    session.LeavesReady reply client last where
  kept present := by
    refine ⟨if_neg fun empty => present ?_,
      isReadyIn_of_reply stands (Requester.obtains_iff.mp obtains)⟩
    exact (isEmpty_iff_eq_toUTF8 reply).mp empty
  replaced empty := by
    obtain ⟨held, stands⟩ := stands
    obtain ⟨held', -, -, standing⟩ :=
      (stands.calls (Requester.obtains_iff.mp obtains)).stands stands
    have standing : Stands { session with client := client } last := ⟨held', standing⟩
    exact ⟨if_pos ((isEmpty_iff_eq_toUTF8 reply).mpr empty), standing.renew.2⟩

/--
Whatever a session has done before, and whatever its peer and its monitor do: a
reply that arrives in time to a command means exactly one thing, and that is
returned.  The socket is replaced after the exchange exactly if the reply was
empty, and unless that fails the session is ready to send the next command.
-/
theorem replies_are_classified (begins : parley.Begins) {options : SessionOptions}
    {identity : SessionIdentity} {context : ContextId} {begun : Parley}
    (bound : bind Parley.fabric options identity context parley = (.ok session, begun))
    {asked : Bool} {watcher : Option WatcherId} {commands : List SessionCommand}
    {reached ready : TaskSession Parley} {before checked : Parley}
    (ran : SessionCommand.run Parley.fabric Parley.watchers (session.attended asked watcher) begun
      commands = some (reached, before))
    (checks : reached.renewIfRequested Parley.fabric Parley.watchers before =
      (.ok (), ready, checked))
    (fuel : Nat) (timeout : Option Duration) (reply : ByteArray) (client : Requester Parley) :
    (∀ parameters,
      ready.client.Obtains Parley.fabric fuel
          { message := (reached.commandEnvelope parameters).compact.toUTF8, timeout := timeout }
          reply checked client last →
        (∃ outcome,
          reached.execute Parley.fabric Parley.watchers fuel parameters timeout before =
            some (outcome, ready.answered Parley.fabric reply client last) ∧
          ∀ result,
            Means (reached.commandEnvelope parameters).compact reply result ↔ result = outcome) ∧
        ready.LeavesReady reply client last) ∧
    (∀ command bits,
      ready.client.Obtains Parley.fabric fuel
          { message := command.toUTF8, timeout := timeout, bits := bits } reply checked client
          last →
        (∃ outcome,
          reached.executeRaw Parley.fabric Parley.watchers fuel command timeout bits before =
            some (outcome, ready.answered Parley.fabric reply client last) ∧
          ∀ result, Hears command reply result ↔ result = outcome) ∧
        ready.LeavesReady reply client last) ∧
    ((∀ text : String, reply ≠ text.toUTF8) →
      ∀ command error, Hears command reply (.error error) → error.code = .failed) := by
  have stands := SessionCommand.run_keeps Stands
    (fun _ _ _ _ _ _ _ _ _ stands returned => executeRaw_stands stands returned)
    (stands_of_bind begins bound asked watcher) ran
  have standing := stands.renewIfRequested
  rw [checks] at standing
  refine ⟨fun parameters obtains => ?_, fun command bits obtains => ?_, ?_⟩
  · exact ⟨execute_answered checks obtains, leavesReady standing obtains⟩
  · exact ⟨executeRaw_answered checks obtains, leavesReady standing obtains⟩
  · intro notText command error hears
    cases hears with
    | garbled => rfl
    | missing empty => exact absurd empty (notText "")

end TaskSession

namespace FailingCommand

def options : SessionOptions :=
  { host := "localhost", commandPort := 5555, heartbeatPort := 5556 }

def reply : ByteArray :=
  "\x7b\"error\":\x7b\"errorcode\":7\x7d\x7d".toUTF8

def parley (reply : ByteArray) : Parley where
  peer := ⟨{ role := .responder, endpoint := ⟨"*", 5555⟩ }⟩
  script := [{ moves := [.manage .start] }, {}, { moves := [.receive none, .send reply] }]

theorem parley_begins (reply : ByteArray) : (parley reply).Begins :=
  ⟨⟨{ endpoint := ⟨"*", 5555⟩ }, none, rfl⟩, rfl, rfl⟩

def bound (reply : ByteArray) : Except SessionError (TaskSession Parley) × Parley :=
  TaskSession.bind Parley.fabric options ⟨"scene", "slave"⟩ ⟨0⟩ (parley reply)

def call (session : TaskSession Parley) : Call :=
  { message := (session.commandEnvelope .null).compact.toUTF8 }

def failure? : Except SessionError Json → Option SessionError
  | .error error => some error
  | .ok _ => none

def outcome (reply : ByteArray) : Option (Option (Array UInt8) × Option SessionError × Bool) :=
  match bound reply with
  | (.error _, _) => none
  | (.ok session, begun) => do
      let session := session.attended false none
      let replied ← session.client.callBytes Parley.fabric 1 (call session) begun
      let returned ← session.execute Parley.fabric Parley.watchers 1 .null none begun
      let socket := returned.2.1.client.lifecycle.socket
      return (replied.1.toOption.map ByteArray.data, failure? returned.1,
        socket.isSome && socket != session.client.lifecycle.socket)

theorem exists_of_outcome {reply : ByteArray} {failure : Option SessionError} {moved : Bool}
    (isOutcome : outcome reply = some (some reply.data, failure, moved)) :
    ∃ session begun client last result after left, bound reply = (.ok session, begun) ∧
      (session.attended false none).client.Obtains Parley.fabric 1
        (call (session.attended false none)) reply begun client last ∧
      (session.attended false none).execute Parley.fabric Parley.watchers 1 .null none begun =
        some (result, after, left) ∧
      failure? result = failure ∧
      (after.client.lifecycle.socket.isSome &&
        after.client.lifecycle.socket != session.client.lifecycle.socket) = moved := by
  unfold outcome at isOutcome
  split at isOutcome
  · cases isOutcome
  · next session begun isBound =>
      obtain ⟨⟨replied, client, last⟩, called, isOutcome⟩ := Option.bind_eq_some_iff.mp isOutcome
      obtain ⟨⟨result, after, left⟩, returned, same⟩ := Option.bind_eq_some_iff.mp isOutcome
      obtain ⟨isReply, rest⟩ := Prod.mk.inj (Option.some.inj same)
      obtain ⟨isFailure, isMoved⟩ := Prod.mk.inj rest
      refine ⟨session, begun, client, last, result, after, left, isBound, ?_, returned,
        isFailure, isMoved⟩
      cases replied with
      | error error => cases isReply
      | ok found =>
          have isReply : found = reply := ByteArray.ext (Option.some.inj isReply)
          exact Requester.obtains_iff.mpr (isReply ▸ called)

end FailingCommand

open FailingCommand in
/--
A reply with an error code that is no text makes its command fail, and so does
an empty reply, after which the session holds another socket.
-/
theorem TaskSession.replies_are_classified_for_failing_command :
    (∃ session begun client last, bound reply = (.ok session, begun) ∧
      (session.attended false none).execute Parley.fabric Parley.watchers 1 .null none begun =
        some (.error (.commandFailed "7" "7"),
          (session.attended false none).answered Parley.fabric reply client last) ∧
      Means ((session.attended false none).commandEnvelope .null).compact reply
        (.error (.commandFailed "7" "7")) ∧
      (session.attended false none).LeavesReady reply client last) ∧
    (∃ session begun client last next, bound .empty = (.ok session, begun) ∧
      (session.attended false none).execute Parley.fabric Parley.watchers 1 .null none begun =
        some (.error (.noResponse
            (excerpt ((session.attended false none).commandEnvelope .null).compact)),
          (session.attended false none).answered Parley.fabric .empty client last) ∧
      (session.attended false none).LeavesReady .empty client last ∧
      ((session.attended false none).answered Parley.fabric .empty client
        last).1.client.lifecycle.socket = some next ∧
      session.client.lifecycle.socket ≠ some next) := by
  constructor
  · have isOutcome : outcome reply =
        some (some reply.data, some (.commandFailed "7" "7"), false) := by decide +kernel
    obtain ⟨session, begun, client, last, result, after, left, isBound, obtains, returned,
      isFailure, -⟩ := exists_of_outcome isOutcome
    have ran : SessionCommand.run Parley.fabric Parley.watchers (session.attended false none)
        begun [] = some (_, begun) := rfl
    obtain ⟨⟨found, executed, means⟩, leaves⟩ :=
      (replies_are_classified (parley_begins reply) isBound ran rfl 1 none reply client).1 .null
        obtains
    obtain ⟨rfl, rest⟩ := Prod.mk.inj (Option.some.inj (returned.symm.trans executed))
    cases result with
    | ok value => cases isFailure
    | error error =>
        obtain rfl : error = .commandFailed "7" "7" := Option.some.inj isFailure
        exact ⟨session, begun, client, last, isBound, executed, (means _).mpr rfl, leaves⟩
  · have isOutcome : (outcome .empty).map (fun parts => (parts.1, parts.2.2)) =
        some (some ByteArray.empty.data, true) := by decide +kernel
    obtain ⟨⟨replied, failure, moved⟩, isOutcome, same⟩ := Option.map_eq_some_iff.mp isOutcome
    obtain ⟨rfl, rfl⟩ := Prod.mk.inj same
    obtain ⟨session, begun, client, last, result, after, left, isBound, obtains, returned,
      -, isMoved⟩ := exists_of_outcome isOutcome
    have ran : SessionCommand.run Parley.fabric Parley.watchers (session.attended false none)
        begun [] = some (_, begun) := rfl
    obtain ⟨⟨found, executed, means⟩, leaves⟩ :=
      (replies_are_classified (parley_begins .empty) isBound ran rfl 1 none .empty client).1 .null
        obtains
    have isMissing := (means _).mp (.unheard (.missing rfl))
    rw [← isMissing] at executed
    have sameState := (Prod.mk.inj (Option.some.inj (returned.symm.trans executed))).2
    obtain ⟨isSome, differs⟩ := Bool.and_eq_true_iff.mp isMoved
    obtain ⟨next, holds⟩ := Option.isSome_iff_exists.mp isSome
    refine ⟨session, begun, client, last, next, isBound, executed, leaves, ?_, ?_⟩
    · rw [← sameState]
      exact holds
    · rw [holds, bne_iff_ne] at differs
      exact differs.symm

end TaskLink
