import TaskLink.Proofs.Messaging.ParleySteps

/-!
# Opening and replacing the client's socket

What the client's lifecycle makes of its surroundings: closed sockets are
gone with all that they held, and a fresh socket is ready to send.  None of
this writes the journal line by which repeated sends are counted.
-/

namespace TaskLink

/-! ## The journal -/

/-- The journal line of a socket that is replaced so that a request can be sent once more. -/
def resendEntry : LogEntry :=
  ⟨.info, "Re-creating zmq socket and trying again"⟩

namespace Lifecycle

/-- How often the socket was replaced so that a request could be sent once more. -/
def resends (lifecycle : Lifecycle) : Nat :=
  lifecycle.journal.entries.count resendEntry

theorem resends_info (lifecycle : Lifecycle) {line : String}
    (different : line ≠ "Re-creating zmq socket and trying again") :
    (lifecycle.info line).resends = lifecycle.resends := by
  change (lifecycle.journal.entries ++ [(⟨.info, line⟩ : LogEntry)]).count resendEntry = _
  rw [List.count_append, List.count_singleton, if_neg, Nat.add_zero]
  · rfl
  · rw [beq_iff_eq, resendEntry, LogEntry.mk.injEq]
    rintro ⟨-, same⟩
    exact different same

theorem resends_error (lifecycle : Lifecycle) (line : String) :
    (lifecycle.error line).resends = lifecycle.resends := by
  change (lifecycle.journal.entries ++ [(⟨.error, line⟩ : LogEntry)]).count resendEntry = _
  rw [List.count_append, List.count_singleton, if_neg, Nat.add_zero]
  · rfl
  · rw [beq_iff_eq, resendEntry, LogEntry.mk.injEq]
    rintro ⟨impossible, -⟩
    cases impossible

theorem resends_resend (lifecycle : Lifecycle) :
    (lifecycle.info "Re-creating zmq socket and trying again").resends = lifecycle.resends + 1 := by
  change (lifecycle.journal.entries ++ [resendEntry]).count resendEntry = _
  rw [List.count_append, List.count_singleton_self]
  rfl

theorem resends_opened {lifecycle : Lifecycle} (role : lifecycle.role = .requester) :
    (lifecycle.info lifecycle.openedLine).resends = lifecycle.resends := by
  apply resends_info
  rw [openedLine, role, if_neg (by decide)]
  intro same
  have spelled := congrArg String.toList same
  rw [String.toList_append] at spelled
  have first := congrArg List.head? spelled
  simp [toString] at first

end Lifecycle

/-! ## Opening -/

/-- What became of a client's socket: a fresh one is ready to send, or there is none. -/
inductive Parley.Opens (parley : Parley) (lifecycle : Lifecycle) :
    Except LinkError SocketId → Lifecycle → Parley → Prop where
  | ready {id : SocketId} {opened : Lifecycle} {after : Parley}
      (socket : opened.socket = some id) (role : opened.role = .requester)
      (resends : opened.resends = lifecycle.resends)
      (leads : parley.Leads (some (id, .ready [])) [.opened id] after) :
      Opens parley lifecycle (.ok id) opened after
  | failed {error : LinkError} {opened : Lifecycle} {after : Parley}
      (socket : opened.socket = none) (role : opened.role = .requester)
      (resends : opened.resends = lifecycle.resends)
      (leads : parley.Leads none [.openingFailed] after) :
      Opens parley lifecycle (.error error) opened after

namespace Lifecycle

variable {parley middle : Parley} {held : Option (SocketId × Stand)}

theorem openOn_opens (lifecycle : Lifecycle) (role : lifecycle.role = .requester)
    (empty : lifecycle.socket = none) (attends : parley.Attends none) (context : ContextId) :
    parley.Opens lifecycle (lifecycle.openOn Parley.fabric context parley).1
      (lifecycle.openOn Parley.fabric context parley).2.1
      (lifecycle.openOn Parley.fabric context parley).2.2 := by
  have opening := attends.openSocket context lifecycle.endpoint lifecycle.options
  rw [← role] at opening
  rcases opening with ⟨fault, after, failed, leads⟩ | ⟨id, after, opened, leads⟩
  · rw [openOn, failed]
    exact .failed empty role rfl leads
  · rw [openOn, opened]
    exact .ready rfl role (resends_opened role) leads

theorem close_leads {lifecycle : Lifecycle} (attends : parley.Attends held)
    (socket : held.map Prod.fst = lifecycle.socket) :
    parley.Leads none [] (lifecycle.close Parley.fabric parley).2 := by
  unfold close
  rw [← socket]
  cases held with
  | none => exact attends.leads
  | some stands => exact attends.closeSocket

/-- An opening after steps that the client did nothing in. -/
theorem opens_after {lifecycle emptied : Lifecycle} {result : Except LinkError SocketId}
    {opened : Lifecycle} {after : Parley} (first : parley.Leads held [] middle)
    (resends : emptied.resends = lifecycle.resends)
    (opens : middle.Opens emptied result opened after) :
    parley.Opens lifecycle result opened after := by
  cases opens with
  | ready socket role same leads => exact .ready socket role (same.trans resends) (first.then leads)
  | failed socket role same leads =>
      exact .failed socket role (same.trans resends) (first.then leads)

theorem establish_opens (lifecycle : Lifecycle) (role : lifecycle.role = .requester)
    (attends : parley.Attends held) (socket : held.map Prod.fst = lifecycle.socket)
    (context : Option ContextId) :
    parley.Opens lifecycle (lifecycle.establish Parley.fabric context parley).1
      (lifecycle.establish Parley.fabric context parley).2.1
      (lifecycle.establish Parley.fabric context parley).2.2 := by
  have closed := close_leads attends socket
  rw [establish_eq]
  cases context with
  | some context =>
      refine opens_after closed ?_ (openOn_opens _ ?_ ?_ closed.attends context)
      · rfl
      · exact role
      · rfl
  | none =>
      have created := closed.attends.newContext
      refine opens_after (closed.then created) ?_ (openOn_opens _ ?_ ?_ created.attends _)
      · rfl
      · exact role
      · rfl

theorem renew_opens (lifecycle : Lifecycle) (role : lifecycle.role = .requester)
    (attends : parley.Attends held) (socket : held.map Prod.fst = lifecycle.socket) :
    parley.Opens lifecycle (lifecycle.renew Parley.fabric parley).1
      (lifecycle.renew Parley.fabric parley).2.1
      (lifecycle.renew Parley.fabric parley).2.2 := by
  have closed := close_leads attends socket
  rw [renew_eq]
  cases lifecycle.context with
  | some context =>
      refine opens_after closed ?_ (openOn_opens _ ?_ ?_ closed.attends context)
      · rfl
      · exact role
      · rfl
  | none =>
      have created := closed.attends.newContext
      refine opens_after (closed.then created) ?_ (openOn_opens _ ?_ ?_ created.attends _)
      · rfl
      · exact role
      · rfl

/-- Replacing the socket after a failed exchange ends as an opening does. -/
theorem recover_opens (lifecycle : Lifecycle) (role : lifecycle.role = .requester)
    (attends : parley.Attends held) (socket : held.map Prod.fst = lifecycle.socket) :
    ∃ result, parley.Opens lifecycle result (lifecycle.recover Parley.fabric parley).1
      (lifecycle.recover Parley.fabric parley).2 := by
  have noted : (lifecycle.info "Re-creating zmq socket").resends = lifecycle.resends :=
    resends_info lifecycle (by decide)
  have opens := renew_opens (lifecycle.info "Re-creating zmq socket") role attends socket
  unfold recover
  cases renewed : (lifecycle.info "Re-creating zmq socket").renew Parley.fabric parley with
  | mk result rest =>
      obtain ⟨opened, after⟩ := rest
      rw [renewed] at opens
      refine ⟨result, ?_⟩
      cases opens with
      | ready socket role same leads => exact .ready socket role (same.trans noted) leads
      | failed socket role same leads =>
          exact .failed socket role ((resends_error _ _).trans (same.trans noted)) leads

end Lifecycle

/-! ## Operations -/

theorem LifecycleOperation.perform_parley {lifecycle : Lifecycle} {parley : Parley}
    {held : Option (SocketId × Stand)} (role : lifecycle.role = .requester)
    (attends : parley.Attends held) (socket : held.map Prod.fst = lifecycle.socket)
    (operation : LifecycleOperation) :
    (operation = .start ∧ lifecycle.isLive = true ∧
      operation.perform Parley.fabric lifecycle parley =
        (.error .alreadyRunning, lifecycle, parley)) ∨
    (operation = .destroy ∧ ∃ destroyed after,
      operation.perform Parley.fabric lifecycle parley = (.ok (), destroyed, after) ∧
      destroyed.socket = none ∧ destroyed.role = .requester ∧
      destroyed.resends = lifecycle.resends ∧ parley.Leads none [] after) ∨
    (operation ≠ .destroy ∧ (operation = .start → lifecycle.isLive = false) ∧
      ∃ result opened after, parley.Opens lifecycle result opened after ∧
        operation.perform Parley.fabric lifecycle parley =
          (result.map fun _ => (), opened, after)) := by
  cases operation with
  | start =>
      cases live : lifecycle.isLive with
      | true =>
          refine Or.inl ⟨rfl, rfl, ?_⟩
          unfold perform
          dsimp only
          rw [Lifecycle.start_of_isLive Parley.fabric lifecycle parley live]
          rfl
      | false =>
          have same : lifecycle.start Parley.fabric parley =
              lifecycle.establish Parley.fabric lifecycle.shared parley := by
            rw [Lifecycle.start, live, if_neg Bool.false_ne_true]
          refine Or.inr (Or.inr ⟨by rintro ⟨⟩, fun _ => rfl, ?_⟩)
          refine ⟨_, _, _,
            Lifecycle.establish_opens lifecycle role attends socket lifecycle.shared, ?_⟩
          unfold perform
          dsimp only
          rw [same]
  | establish context =>
      refine Or.inr (Or.inr ⟨by rintro ⟨⟩, by rintro ⟨⟩, ?_⟩)
      exact ⟨_, _, _, Lifecycle.establish_opens lifecycle role attends socket context, rfl⟩
  | renew =>
      refine Or.inr (Or.inr ⟨by rintro ⟨⟩, by rintro ⟨⟩, ?_⟩)
      exact ⟨_, _, _, Lifecycle.renew_opens lifecycle role attends socket, rfl⟩
  | destroy =>
      refine Or.inr (Or.inl ⟨rfl, (lifecycle.destroy Parley.fabric parley).1,
        (lifecycle.destroy Parley.fabric parley).2, rfl, ?_, ?_, ?_, ?_⟩)
      · rw [Lifecycle.destroy_fst]
      · rw [Lifecycle.destroy_fst]
        exact role
      · rw [Lifecycle.destroy_fst]
        rfl
      · rw [Lifecycle.destroy_snd]
        exact Lifecycle.close_leads attends socket

/-! ## Ready to send -/

namespace Lifecycle

/-- There is a live socket, which takes a new request and has begun none. -/
def IsReadyIn (lifecycle : Lifecycle) (parley : Parley) : Prop :=
  ∃ id socket, lifecycle.socket = some id ∧ parley.network.find? id = some socket ∧
    socket.isReady .writable = true ∧ socket.composed = []

theorem isReadyIn_of_attends {lifecycle : Lifecycle} {parley : Parley} {id : SocketId}
    (attends : parley.Attends (some (id, .ready []))) (isSocket : lifecycle.socket = some id) :
    lifecycle.IsReadyIn parley := by
  obtain ⟨socket, found, -, turn, composed, -⟩ := attends.concord.client id _ rfl
  refine ⟨id, socket, isSocket, found, ?_, composed⟩
  rw [NetworkSocket.isReady, bne_iff_ne]
  exact turn

end Lifecycle

end TaskLink
