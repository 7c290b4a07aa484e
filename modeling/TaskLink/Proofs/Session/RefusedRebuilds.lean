import TaskLink.Proofs.Session.RequestedRebuilds

/-!
# Rebuilds that are refused

A session takes its monitor's request before it replaces its socket, and closes
the old socket before it opens the new one.  If the new one is refused, both
are gone: the command reports the refusal, but the request is not made again,
and the commands after it find neither a request nor a socket.  Only another
request brings the session back.
-/

namespace TaskLink

open Alarmed

variable {σ : Type} {base : Fabric σ}

/-! ## Without a socket -/

namespace Requester

def refusal (client : Requester σ) (message : ByteArray) : LinkError :=
  let limit := client.settings.maxMessageSize.toNat
  if limit < message.size then .messageTooLarge message.size limit
  else
    .notInitialized s!"{client.lifecycle.role.tag} socket for {client.lifecycle.endpoint.text}"

theorem callBytes_of_no_socket (fabric : Fabric σ) {client : Requester σ}
    (empty : client.lifecycle.socket = none) (fuel : Nat) (call : Call) (s : σ) :
    client.callBytes fabric fuel call s = some (.error (client.refusal call.message), client, s) := by
  unfold callBytes refusal
  dsimp only
  split
  · rfl
  · rw [Lifecycle.live, empty]

end Requester

namespace Alarmed

variable {alarmed : Alarmed σ}

/-- A check that finds no request leaves nothing but a trace of itself. -/
theorem takeRequest_of_unasked
    (flag : alarmed.vigil.requested = ChannelEvent.pending alarmed.history)
    (unasked : (alarmed.takeRequest base).1 = false) :
    (alarmed.takeRequest base).2.history = .taken false :: alarmed.history := by
  obtain ⟨waiting, raises, requested, history, -⟩ := takeRequest_cases base alarmed flag
  have none : waiting = [] := by
    cases waiting with
    | nil => rfl
    | cons event rest =>
        rw [raises event List.mem_cons_self, unasked] at requested
        cases requested
  rw [history, unasked, none, List.nil_append]

end Alarmed

namespace TaskSession

variable {session after : TaskSession (Alarmed σ)} {alarmed last : Alarmed σ}

/-- An error of the link is not a missing reply. -/
theorem renewAfter_link (fabric : Fabric σ) (error : LinkError) (session : TaskSession σ) (s : σ) :
    renewAfter fabric (.link error) session s = (session, s) :=
  if_neg error.code_ne_noResponse

/-- Without a socket and without a request a command is refused, and nothing else happens. -/
theorem executeRaw_of_no_socket (watched : session.watcher.isSome = true)
    (empty : session.client.lifecycle.socket = none)
    (unasked : (alarmed.takeRequest base).1 = false) (fuel : Nat) (command : String)
    (timeout : Option Duration) (bits : UInt32) :
    session.executeRaw (fabric base) (watchers base) fuel command timeout bits alarmed =
      some (.error (.link (session.client.refusal command.toUTF8)), session,
        (alarmed.takeRequest base).2) := by
  obtain ⟨watcher, isWatcher⟩ := Option.isSome_iff_exists.mp watched
  have check : session.renewIfRequested (fabric base) (watchers base) alarmed =
      (.ok (), session, (alarmed.takeRequest base).2) := by
    unfold renewIfRequested
    rw [isWatcher]
    dsimp only [watchers]
    generalize takeRequest base alarmed = taken at *
    obtain ⟨requested, middle⟩ := taken
    cases unasked
    rfl
  unfold executeRaw
  rw [check]
  dsimp only
  unfold transmit Requester.call
  dsimp only
  rw [Requester.callBytes_of_no_socket _ empty]
  simp only [Option.map_some, Except.bind, checkReply, renewAfter_link]

/-- A rebuild that fails was requested; the request is taken, and the old socket is closed. -/
theorem renewIfRequested_of_error
    (flag : alarmed.vigil.requested = ChannelEvent.pending alarmed.history) {error : SessionError}
    (failed : session.renewIfRequested (fabric base) (watchers base) alarmed =
      (.error error, after, last)) :
    ∃ (fault : OpenFault) (waiting : List ChannelEvent) (middle : Alarmed σ),
      error = .link (session.client.lifecycle.openError fault) ∧
      after.client.lifecycle.socket = none ∧
      (∀ event ∈ waiting, event = .raised) ∧
      ChannelEvent.pending (waiting ++ alarmed.history) = true ∧
      middle.history = .taken true :: (waiting ++ alarmed.history) ∧
      middle.vigil.requested = false ∧ middle.Grows [.refused fault] last := by
  obtain ⟨waiting, raises, requested, history, taken⟩ := takeRequest_cases base alarmed flag
  unfold renewIfRequested at failed
  split at failed
  · cases failed
  · dsimp only [watchers] at failed
    generalize takeRequest base alarmed = check at *
    obtain ⟨request, middle⟩ := check
    dsimp only at requested history taken
    cases request with
    | false => cases failed
    | true =>
        dsimp only at failed
        obtain ⟨result, opened, reopens, result_eq, session_eq⟩ :=
          renew_reopens base session middle
        generalize session.renew (fabric base) middle = renewed at *
        cases failed
        dsimp only at reopens result_eq session_eq
        subst session_eq
        cases reopens with
        | ready holds grows => cases result_eq
        | @failed fault _ _ holds grows =>
            cases result_eq
            exact ⟨fault, waiting, middle, rfl, holds, raises, requested.symm, history, taken, grows⟩

end TaskSession

/-! ## Commands after a refusal -/

namespace SessionCommand

variable {session after : TaskSession (Alarmed σ)} {alarmed last : Alarmed σ}

/-- An error that ends every raw command ends a command of any kind. -/
theorem perform_of_error {fabric : Fabric σ} {watchers : Watchers σ} {session after : TaskSession σ}
    {s last : σ} {error : SessionError} {command : SessionCommand}
    (refused : ∀ polls timeout bits,
      session.executeRaw fabric watchers polls (command.text session) timeout bits s =
        some (.error error, after, last)) :
    command.perform fabric watchers session s = some (.error error, after, last) := by
  cases command with
  | raw polls command timeout bits => exact congrArg (Option.map _) (refused polls timeout bits)
  | enveloped polls parameters timeout =>
      have refused := refused polls timeout 0
      rw [text] at refused
      rw [perform, TaskSession.execute]
      dsimp only
      rw [refused]
      rfl

theorem perform_of_no_socket (watched : session.watcher.isSome = true)
    (empty : session.client.lifecycle.socket = none)
    (unasked : (alarmed.takeRequest base).1 = false) (command : SessionCommand) :
    command.perform (fabric base) (watchers base) session alarmed =
      some (.error (.link (session.client.refusal (command.message session))), session,
        (alarmed.takeRequest base).2) :=
  perform_of_error fun polls timeout bits =>
    TaskSession.executeRaw_of_no_socket watched empty unasked polls _ timeout bits

/--
Whatever commands a session has carried out, if it cannot replace its socket as
its monitor has asked it to, the next command returns the error and the request
is gone with the socket: a request is pending afterwards only if the monitor
made another one meanwhile.  Until then no command tries to open a socket again,
and each is refused because there is none.
-/
theorem refused_rebuilds_are_forgotten (watched : session.IsWatched base alarmed)
    {commands : List SessionCommand} {reached : TaskSession (Alarmed σ)} {before : Alarmed σ}
    (ran : run (fabric base) (watchers base) session alarmed commands = some (reached, before))
    {error : SessionError}
    (failed : reached.renewIfRequested (fabric base) (watchers base) before =
      (.error error, after, last)) :
    (∀ command : SessionCommand,
      command.perform (fabric base) (watchers base) reached before =
        some (.error error, after, last)) ∧
    after.client.lifecycle.socket = none ∧
    (∃ fault waiting since,
      error = .link (reached.client.lifecycle.openError fault) ∧
      ChannelEvent.pending (waiting ++ before.history) = true ∧
      last.history = since ++ .taken true :: (waiting ++ before.history) ∧
      since.filter ChannelEvent.isSessions = [.refused fault] ∧
      (ChannelEvent.pending last.history = true ↔ .raised ∈ since)) ∧
    ∀ next : SessionCommand, (last.takeRequest base).1 = false →
      next.perform (fabric base) (watchers base) after last =
        some (.error (.link (after.client.refusal (next.message after))), after,
          (last.takeRequest base).2) ∧
      (last.takeRequest base).2.history = .taken false :: last.history := by
  have reachedWatched := run_keeps (fun session alarmed => session.IsWatched base alarmed)
    (fun _ _ _ _ _ _ _ _ _ watched returned => (TaskSession.executeRaw_checks watched returned).2)
    watched ran
  have refused : ∀ polls command timeout bits,
      reached.executeRaw (fabric base) (watchers base) polls command timeout bits before =
        some (.error error, after, last) := by
    intro polls command timeout bits
    rw [TaskSession.executeRaw, failed]
  have afterWatched := (TaskSession.executeRaw_checks reachedWatched (refused 0 "" none 0)).2
  obtain ⟨fault, waiting, middle, rfl, empty, raises, requested, history, taken, grows⟩ :=
    TaskSession.renewIfRequested_of_error reachedWatched.flag failed
  refine ⟨fun command => perform_of_error fun polls => refused polls _, empty, ?_, ?_⟩
  · obtain ⟨since, whole, own, flag⟩ := grows
    refine ⟨fault, waiting, since, rfl, requested, by rw [whole, history], own, ?_⟩
    rw [← afterWatched.flag, flag, taken, Bool.or_false, List.any_eq_true]
    constructor
    · rintro ⟨event, member, isRaise⟩
      cases event with
      | raised => exact member
      | _ => cases isRaise
    · intro member
      exact ⟨.raised, member, rfl⟩
  · intro next unasked
    exact ⟨perform_of_no_socket afterWatched.watched empty unasked next,
      takeRequest_of_unasked afterWatched.flag unasked⟩

end SessionCommand

/-! ## A context that is gone -/

namespace TerminatedContext

/-- A monitor beside a session makes one request, just before the first command. -/
def surroundings : Alarmed Network :=
  { surroundings := {}, vigil := { lastAlive := 0 }, alarms := [0, 1] }

def begun : Except SessionError (TaskSession (Alarmed Network)) × Alarmed Network :=
  match TaskSession.bind (fabric Network.fabric) { host := "localhost" } ⟨"scene", "slave"⟩ ⟨0⟩
      surroundings with
  | (.ok session, alarmed) =>
      match session.startMonitor (watchers Network.fabric) alarmed with
      | (.ok (), session, alarmed) =>
          (.ok session, { alarmed with surroundings := alarmed.surroundings.terminate ⟨0⟩ })
      | (.error error, _, alarmed) => (.error error, alarmed)
  | failed => failed

def refusal : SessionError :=
  .link (.initializationFailed "ZMQ-REQ socket: Context was terminated")

def missing : SessionError :=
  .link (.notInitialized "ZMQ-REQ socket for tcp://localhost:11000")

/-- Whether the rebuild that was asked for is refused, and the command after it as well. -/
def isForgotten (session : TaskSession (Alarmed Network)) (alarmed : Alarmed Network) : Bool :=
  match session.renewIfRequested (fabric Network.fabric) (watchers Network.fabric) alarmed with
  | (.error error, after, last) =>
      error == refusal && !ChannelEvent.pending last.history &&
        match after.executeRaw (fabric Network.fabric) (watchers Network.fabric) 1 "stop" none 0
            last with
        | some (.error error, _, _) => error == missing
        | _ => false
  | _ => false

def forgets : Except SessionError (TaskSession (Alarmed Network)) × Alarmed Network → Bool
  | (.ok session, alarmed) =>
      session.watcher.isSome && session.client.preempt.isNone &&
        (alarmed.vigil.requested == ChannelEvent.pending alarmed.history) &&
        isForgotten session alarmed
  | _ => false

theorem refused_of_isForgotten {session : TaskSession (Alarmed Network)} {alarmed : Alarmed Network}
    (forgotten : isForgotten session alarmed = true) :
    ∃ after last,
      session.renewIfRequested (fabric Network.fabric) (watchers Network.fabric) alarmed =
        (.error refusal, after, last) ∧
      ChannelEvent.pending last.history = false ∧
      ∃ still final,
        after.executeRaw (fabric Network.fabric) (watchers Network.fabric) 1 "stop" none 0 last =
          some (.error missing, still, final) := by
  unfold isForgotten at forgotten
  split at forgotten
  · next error after last failed =>
      simp only [Bool.and_eq_true, beq_iff_eq, Bool.not_eq_eq_eq_not, Bool.not_true] at forgotten
      obtain ⟨⟨rfl, unasked⟩, next⟩ := forgotten
      split at next
      · next again still final returned =>
          obtain rfl := beq_iff_eq.mp next
          exact ⟨after, last, failed, unasked, still, final, returned⟩
      · cases next
  · cases forgotten

theorem exists_begun :
    ∃ session alarmed, begun = (.ok session, alarmed) ∧ session.IsWatched Network.fabric alarmed ∧
      isForgotten session alarmed = true := by
  have once : forgets begun = true := by decide +kernel
  cases begins : begun with
  | mk result alarmed =>
      rw [begins] at once
      cases result with
      | error error => cases once
      | ok session =>
          simp only [forgets, Bool.and_eq_true, beq_iff_eq, Option.isNone_iff_eq_none] at once
          obtain ⟨⟨⟨watched, unasked⟩, flag⟩, forgotten⟩ := once
          have apart : Requester.IsApart Network.fabric session.client.preempt := by
            rw [unasked]
            rintro ask ⟨⟩
          exact ⟨session, alarmed, rfl, ⟨watched, apart, flag⟩, forgotten⟩

end TerminatedContext

open TerminatedContext in
/-- On a context that is gone the rebuild is refused, and the session is left without a socket. -/
theorem SessionCommand.refused_rebuilds_are_forgotten_on_lost_context :
    ∃ session alarmed after last, session.IsWatched Network.fabric alarmed ∧
      run (fabric Network.fabric) (watchers Network.fabric) session alarmed [] =
        some (session, alarmed) ∧
      session.renewIfRequested (fabric Network.fabric) (watchers Network.fabric) alarmed =
        (.error refusal, after, last) ∧
      after.client.lifecycle.socket = none := by
  obtain ⟨session, alarmed, -, watched, forgotten⟩ := exists_begun
  obtain ⟨after, last, failed, -⟩ := refused_of_isForgotten forgotten
  have ran : run (fabric Network.fabric) (watchers Network.fabric) session alarmed [] =
      some (session, alarmed) := rfl
  have forgets := refused_rebuilds_are_forgotten watched ran failed
  exact ⟨session, alarmed, after, last, watched, ran, failed, forgets.2.1⟩

open TerminatedContext in
/-- After the refused rebuild no request is pending, and the next command finds no socket. -/
theorem SessionCommand.refused_rebuild_is_not_tried_again :
    ∃ session alarmed after last, begun = (.ok session, alarmed) ∧
      session.IsWatched Network.fabric alarmed ∧
      session.renewIfRequested (fabric Network.fabric) (watchers Network.fabric) alarmed =
        (.error refusal, after, last) ∧
      ¬ ChannelEvent.pending last.history = true ∧
      ∃ still final,
        after.executeRaw (fabric Network.fabric) (watchers Network.fabric) 1 "stop" none 0 last =
          some (.error missing, still, final) := by
  obtain ⟨session, alarmed, begins, watched, forgotten⟩ := exists_begun
  obtain ⟨after, last, failed, unasked, next⟩ := refused_of_isForgotten forgotten
  exact ⟨session, alarmed, after, last, begins, watched, failed, by rw [unasked]; nofun, next⟩

end TaskLink
