import TaskLink.Messaging.Network
import TaskLink.Proofs.Link.PreemptHistories
import TaskLink.Proofs.Messaging.SentMessages

/-!
# Calls that are preempted

A call asks its source before it does anything else once its request is out.
So what becomes of it is settled by the flags alone: neither a reply that is
there already nor a deadline that is past comes first.
-/

namespace TaskLink

/-- A call was given up because of a bit that it watches. -/
def IsInterrupted {α : Type} (result : Except LinkError α) : Prop :=
  ∃ error, result = .error error ∧ error.code = .userInterrupt

theorem not_isInterrupted_ok {α : Type} (value : α) :
    ¬ IsInterrupted (.ok value : Except LinkError α) := by
  rintro ⟨error, impossible, -⟩
  cases impossible

theorem isInterrupted_error_iff {α : Type} {error : LinkError} :
    IsInterrupted (.error error : Except LinkError α) ↔ error.code = .userInterrupt := by
  constructor
  · rintro ⟨same, isError, isCode⟩
    cases isError
    exact isCode
  · exact fun isCode => ⟨error, rfl, isCode⟩

/-! ## Errors of the transport -/

namespace Lifecycle

variable {σ : Type} (fabric : Fabric σ) (lifecycle : Lifecycle) (s : σ)

theorem openError_code (fault : OpenFault) :
    (lifecycle.openError fault).code = .transportFault := by
  cases fault with
  | create fault => rfl
  | tune fault => rfl
  | attach fault =>
      rw [openError]
      split <;> rfl

theorem openOn_code {context : ContextId} {error : LinkError}
    (failed : (lifecycle.openOn fabric context s).1 = .error error) :
    error.code = .transportFault := by
  unfold openOn at failed
  split at failed
  · cases failed
  · cases failed
    exact lifecycle.openError_code _

theorem renew_code {error : LinkError} (failed : (lifecycle.renew fabric s).1 = .error error) :
    error.code = .transportFault := by
  unfold renew at failed
  dsimp only at failed
  split at failed
  · exact openOn_code fabric _ _ failed
  · exact openOn_code fabric _ _ failed

end Lifecycle

namespace Requester

variable {σ : Type}

/-- A request that was not accepted for sending is a fault of the transport. -/
theorem sendWithRecovery_code {fabric : Fabric σ} {message : ByteArray} {socket : SocketId}
    {lifecycle after : Lifecycle} {s s' : σ} {error : LinkError}
    (failed : sendWithRecovery fabric message socket lifecycle s = (.error error, after, s')) :
    error.code = .transportFault := by
  unfold sendWithRecovery at failed
  split at failed
  · cases failed
  · dsimp only at failed
    split at failed
    · next isRenewed =>
        cases failed
        exact Lifecycle.renew_code fabric _ _ (congrArg Prod.fst isRenewed)
    · unfold resend at failed
      split at failed
      · cases failed
      · cases failed
        rfl

theorem not_isInterrupted_readReply (fabric : Fabric σ) (socket : SocketId)
    (lifecycle : Lifecycle) (s : σ) : ¬ IsInterrupted (readReply fabric socket lifecycle s).1 := by
  unfold readReply
  split
  · exact not_isInterrupted_ok _
  · intro isInterrupted
    cases isInterrupted_error_iff.mp isInterrupted

/-! ## Waiting -/

/-- The source that is watched always gives one answer, and does nothing else. -/
def Answers (watching : Option (Preempt σ)) (bits : UInt32) (raised : Bool) : Prop :=
  ∀ s, askWatched watching bits s = (raised, s)

theorem answers_source (flags : PreemptFlags) (bits : UInt32) :
    Answers (watched (some (flags.source : Preempt σ)) bits) bits (flags.isPreempted bits) := by
  intro s
  unfold watched
  split
  · next isZero => rw [isZero, flags.isPreempted_zero]; rfl
  · rfl

theorem answers_unwatched (preempt : Option (Preempt σ)) :
    Answers (watched preempt 0) 0 false :=
  fun _ => rfl

theorem answers_none (bits : UInt32) :
    Answers (watched (none : Option (Preempt σ)) bits) bits false := by
  intro s
  unfold watched
  split <;> rfl

variable {fabric : Fabric σ} {watching : Option (Preempt σ)} {interval : Duration} {call : Call}
  {started : Nat} {deadline : Option Deadline} {socket : SocketId} {lifecycle : Lifecycle} {s : σ}

theorem awaitReply_of_raised (answers : Answers watching call.bits true) (fuel : Nat) :
    awaitReply fabric watching interval call started deadline socket (fuel + 1) lifecycle s =
      some (.error (.userInterrupt call.text call.bits),
        lifecycle.error (preemptedLine fabric call started s), s) := by
  rw [awaitReply, answers s]

theorem not_isInterrupted_awaitReply (answers : Answers watching call.bits false) {fuel : Nat}
    {done : Except LinkError ByteArray × Lifecycle × σ}
    (returned : awaitReply fabric watching interval call started deadline socket fuel lifecycle
      s = some done) :
    ¬ IsInterrupted done.1 := by
  induction fuel generalizing s with
  | zero => cases returned
  | succ fuel ih =>
      rw [awaitReply, answers s] at returned
      dsimp only at returned
      split at returned
      · cases returned
        intro isInterrupted
        cases isInterrupted_error_iff.mp isInterrupted
      · split at returned
        · cases returned
          exact not_isInterrupted_readReply fabric _ _ _
        · exact ih returned
        · cases returned
          intro isInterrupted
          cases isInterrupted_error_iff.mp isInterrupted

/-! ## Calls -/

/--
How a call ends if its source always answers the same: it is interrupted if
and only if its request went out and the answer is that a bit is raised, and
then the request went out once.
-/
structure Heeds {α : Type} (raised : Prop) (call : Call) (before : Tapped σ)
    (result : Except LinkError α) (after : Tapped σ) : Prop where
  interrupted_iff : IsInterrupted result ↔ after.sent ≠ before.sent ∧ raised
  reported : IsInterrupted result → result = .error (.userInterrupt call.text call.bits)
  sent_once : IsInterrupted result → after.sent = before.sent ++ [call.message]

theorem Heeds.of_not_interrupted {α : Type} {raised : Prop} {call : Call}
    {before after : Tapped σ} {result : Except LinkError α} (goesOn : ¬ IsInterrupted result)
    (idle : after.sent ≠ before.sent → ¬ raised) : Heeds raised call before result after :=
  ⟨⟨fun isInterrupted => absurd isInterrupted goesOn,
      fun ⟨isSent, isRaised⟩ => absurd isRaised (idle isSent)⟩,
    fun isInterrupted => absurd isInterrupted goesOn,
    fun isInterrupted => absurd isInterrupted goesOn⟩

variable {base : Fabric σ} {client : Requester (Tapped σ)} {before : Tapped σ} {raised : Bool}

theorem callBytes_heeds (answers : Answers (watched client.preempt call.bits) call.bits raised)
    {fuel : Nat} {done : Except LinkError ByteArray × Requester (Tapped σ) × Tapped σ}
    (returned : client.callBytes base.tapping fuel call before = some done) :
    Heeds (raised = true) call before done.1 done.2.2 := by
  cases callBytes_ends returned with
  | tooLarge =>
      refine .of_not_interrupted ?_ fun isSent => absurd rfl isSent
      intro isInterrupted
      cases isInterrupted_error_iff.mp isInterrupted
  | stopped dead =>
      refine .of_not_interrupted ?_ fun isSent => absurd rfl isSent
      intro isInterrupted
      unfold Lifecycle.live at dead
      split at dead
      · cases dead
      · cases dead
        cases isInterrupted_error_iff.mp isInterrupted
  | @unsent socket _ _ _ live refused =>
      have delivers := sendWithRecovery_delivers base call.message socket client.lifecycle before
      rw [refused] at delivers
      refine .of_not_interrupted ?_ fun isSent => absurd delivers isSent
      intro isInterrupted
      rw [isInterrupted_error_iff, sendWithRecovery_code refused] at isInterrupted
      cases isInterrupted
  | @waited socket _ _ _ middle after result live accepted awaited =>
      have delivers := sendWithRecovery_delivers base call.message socket client.lifecycle before
      rw [accepted] at delivers
      have waiting := awaitReply_sent (fun s => by rw [answers s]) awaited
      have sent : after.sent = before.sent ++ [call.message] := waiting.trans delivers
      cases raised with
      | false => exact .of_not_interrupted (not_isInterrupted_awaitReply answers awaited) (by simp)
      | true =>
          cases fuel with
          | zero => cases awaited
          | succ fuel =>
              rw [awaitReply_of_raised answers] at awaited
              cases awaited
              have isInterrupted : IsInterrupted
                  (.error (.userInterrupt call.text call.bits) : Except LinkError ByteArray) :=
                ⟨_, rfl, rfl⟩
              exact ⟨⟨fun _ => ⟨by simp [sent], rfl⟩, fun _ => isInterrupted⟩, fun _ => rfl,
                fun _ => sent⟩

/-- A call that is to be given up returns whatever its timeout. -/
theorem callBytes_isSome (answers : Answers (watched client.preempt call.bits) call.bits true)
    (fuel : Nat) : (client.callBytes base.tapping (fuel + 1) call before).isSome = true := by
  unfold callBytes exchange
  dsimp only
  split
  · rfl
  · split
    · rfl
    · rw [Option.isSome_map]
      split
      · rfl
      · rw [awaitReply_of_raised answers]
        rfl

theorem isInterrupted_bind_replyText (result : Except LinkError ByteArray) :
    IsInterrupted (result.bind replyText) ↔ IsInterrupted result := by
  cases result with
  | error error => exact isInterrupted_error_iff.trans isInterrupted_error_iff.symm
  | ok reply =>
      refine iff_of_false ?_ (not_isInterrupted_ok reply)
      change ¬ IsInterrupted (replyText reply)
      unfold replyText
      split
      · exact not_isInterrupted_ok _
      · intro isInterrupted
        cases isInterrupted_error_iff.mp isInterrupted

theorem call_heeds (answers : Answers (watched client.preempt call.bits) call.bits raised)
    {fuel : Nat} {done : Except LinkError String × Requester (Tapped σ) × Tapped σ}
    (returned : client.call base.tapping fuel call before = some done) :
    Heeds (raised = true) call before done.1 done.2.2 := by
  obtain ⟨⟨result, client', after⟩, called, rfl⟩ := Option.map_eq_some_iff.mp returned
  obtain ⟨interrupted_iff, reported, sent_once⟩ := callBytes_heeds answers called
  refine ⟨(isInterrupted_bind_replyText result).trans interrupted_iff, ?_, ?_⟩
  · intro isInterrupted
    dsimp only at reported
    rw [reported ((isInterrupted_bind_replyText result).mp isInterrupted)]
    rfl
  · exact fun isInterrupted => sent_once ((isInterrupted_bind_replyText result).mp isInterrupted)

end Requester

namespace PreemptFlags

open PreemptMove Requester

/--
A bit is raised if and only if the last move that touched it raised it.  A
call of a client that watches the flags is interrupted if and only if its
request went out and one of its bits is raised; then it returns whatever its
timeout, and its request went out once.  A call that watches no bits, or has
no flags to watch, is never interrupted.
-/
theorem calls_heed_history {σ : Type} (base : Fabric σ) (client : Requester (Tapped σ))
    (call : Call) (before : Tapped σ) (moves : List PreemptMove) :
    (∀ bit, hasBit (after moves).mask bit = true ↔ LastRaises bit moves) ∧
    (client.preempt = some (after moves).source →
      (∀ fuel done, client.callBytes base.tapping fuel call before = some done →
        Heeds (∃ bit, hasBit call.bits bit = true ∧ LastRaises bit moves) call before
          done.1 done.2.2) ∧
      (∀ fuel done, client.call base.tapping fuel call before = some done →
        Heeds (∃ bit, hasBit call.bits bit = true ∧ LastRaises bit moves) call before
          done.1 done.2.2) ∧
      ((∃ bit, hasBit call.bits bit = true ∧ LastRaises bit moves) →
        ∀ fuel, (client.callBytes base.tapping (fuel + 1) call before).isSome = true ∧
          (client.call base.tapping (fuel + 1) call before).isSome = true)) ∧
    (call.bits = 0 ∨ client.preempt = none →
      (∀ fuel done, client.callBytes base.tapping fuel call before = some done →
        ¬ IsInterrupted done.1) ∧
      (∀ fuel done, client.call base.tapping fuel call before = some done →
        ¬ IsInterrupted done.1)) := by
  refine ⟨hasBit_after_iff moves, ?watched, ?unwatched⟩
  case watched =>
    intro installed
    have answers : Answers (watched client.preempt call.bits) call.bits
        ((after moves).isPreempted call.bits) := by
      rw [installed]
      exact answers_source (after moves) call.bits
    have raised_iff : (∃ bit, hasBit call.bits bit = true ∧ LastRaises bit moves) ↔
        (after moves).isPreempted call.bits = true := by
      simp only [isPreempted_iff, hasBit_after_iff]
    rw [raised_iff]
    refine ⟨fun fuel done => callBytes_heeds answers, fun fuel done => call_heeds answers, ?_⟩
    intro isRaised fuel
    rw [isRaised] at answers
    have returns : (client.callBytes base.tapping (fuel + 1) call before).isSome = true :=
      callBytes_isSome answers fuel
    exact ⟨returns, by rw [Requester.call, Option.isSome_map, returns]⟩
  case unwatched =>
    intro nothing
    have answers : Answers (watched client.preempt call.bits) call.bits false := by
      rcases nothing with isZero | uninstalled
      · rw [isZero]
        exact answers_unwatched client.preempt
      · rw [uninstalled]
        exact answers_none call.bits
    have calm {α : Type} {result : Except LinkError α} {s : Tapped σ}
        (heeds : Heeds (false = true) call before result s) : ¬ IsInterrupted result :=
      fun isInterrupted => Bool.false_ne_true (heeds.interrupted_iff.mp isInterrupted).2
    exact ⟨fun fuel done returned => calm (callBytes_heeds answers returned),
      fun fuel done returned => calm (call_heeds answers returned)⟩

namespace SecondCall

/-- Bit 2 is raised again after everything was taken back, and bit 0 is taken back after it. -/
def moves : List PreemptMove :=
  [.raise 7, .clearAll, .raise 5, .clear 1]

/-- A started client whose first request `[1]` was never answered. -/
def asked : Lifecycle × Tapped Network :=
  match Lifecycle.start Network.fabric.tapping
      { role := .requester, endpoint := ⟨"localhost", 5555⟩ } ⟨{}, []⟩ with
  | (.ok socket, lifecycle, s) =>
      (sendWithRecovery Network.fabric.tapping ⟨#[1]⟩ socket lifecycle s).2
  | (.error _, rest) => rest

def client : Requester (Tapped Network) where
  settings := { endpoint := ⟨"localhost", 5555⟩ }
  lifecycle := asked.1
  preempt := some (after moves).source

def request : Call :=
  { message := ⟨#[2]⟩, bits := 12 }

end SecondCall

open SecondCall in
/-- The second call is given up after its request went out once, on a socket that was replaced. -/
theorem calls_heed_history_on_replaced_socket :
    client.preempt = some (after moves).source ∧
      (∃ done, client.callBytes Network.fabric.tapping 1 request asked.2 = some done ∧
        IsInterrupted done.1 ∧ done.2.2.sent = asked.2.sent ++ [request.message] ∧
        done.2.1.lifecycle.socket ≠ client.lifecycle.socket) ∧
      ∃ done, client.callBytes Network.fabric.tapping 1
          { request with timeout := some .zero, bits := 0 } asked.2 = some done ∧
        ¬ IsInterrupted done.1 := by
  have installed : client.preempt = some (after moves).source := rfl
  have raised : ∃ bit, hasBit request.bits bit = true ∧ LastRaises bit moves :=
    ⟨2, rfl, 5, rfl⟩
  obtain ⟨-, watched, -⟩ := calls_heed_history Network.fabric client request asked.2 moves
  obtain ⟨heeds, -, returns⟩ := watched installed
  have replaced : (client.callBytes Network.fabric.tapping 1 request asked.2).map
      (fun done => decide (done.2.2.sent = asked.2.sent) ||
        decide (done.2.1.lifecycle.socket = client.lifecycle.socket)) = some false := by
    decide +kernel
  obtain ⟨done, returned, changed⟩ := Option.map_eq_some_iff.mp replaced
  simp only [Bool.or_eq_false_iff, decide_eq_false_iff_not] at changed
  have isInterrupted := (heeds 1 done returned).interrupted_iff.mpr ⟨changed.1, raised⟩
  have unwatched := (calls_heed_history Network.fabric client
    { request with timeout := some .zero, bits := 0 } asked.2 moves).2.2 (.inl rfl)
  have settles : (client.callBytes Network.fabric.tapping 1
      { request with timeout := some .zero, bits := 0 } asked.2).isSome = true := by
    decide +kernel
  obtain ⟨late, timedOut⟩ := Option.isSome_iff_exists.mp settles
  exact ⟨installed,
    ⟨done, returned, isInterrupted, (heeds 1 done returned).sent_once isInterrupted, changed.2⟩,
    late, timedOut, unwatched.1 1 late timedOut⟩

end PreemptFlags

end TaskLink
