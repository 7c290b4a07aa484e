import TaskLink.Proofs.Messaging.Parley

/-!
# How long a script lasts

Each step of the client uses up one interlude, and nothing else does.  Only an
interlude can interrupt a poll, so whatever is repeated after an interruption
comes to an end.
-/

namespace TaskLink

theorem Network.poll_ne_interrupted (network : Network) (id : SocketId) (readiness : Readiness)
    (wait : Wait) : (network.poll id readiness wait).1 ≠ .error .interrupted := by
  unfold poll isReady usable
  cases network.find? id with
  | none =>
      intro impossible
      cases impossible
  | some socket =>
      dsimp only
      split
      · next fault failed =>
          split at failed
          · cases failed
            intro impossible
            cases impossible
          · cases failed
      · intro impossible
        cases impossible
      · intro impossible
        cases impossible

theorem PeerMove.perform_script (move : PeerMove) (parley : Parley) :
    (move.perform parley).script = parley.script := by
  have told (before : Parley) (request : Reading) :
      (before.noteTaken request).script = before.script := by
    unfold Parley.noteTaken
    split <;> rfl
  have read {α : Type} (reading : α → Reading) (outcome : Except LinkError (Option α) × Network) :
      (parley.afterReading reading outcome).script = parley.script := by
    unfold Parley.afterReading
    split
    · exact told _ _
    · rfl
  have answered (frames : List ByteArray) (outcome : Except LinkError Unit × Network) :
      (parley.afterAnswering frames outcome).script = parley.script := by
    unfold Parley.afterAnswering
    split
    · split <;> rfl
    · rfl
  cases move with
  | manage operation => rfl
  | receive timeout => exact read _ _
  | receiveFrames timeout => exact read _ _
  | poll wait => rfl
  | send reply => exact answered _ _
  | sendFrames frames => exact answered _ _

namespace Parley

/-- Each step of the client is preceded by the next interlude. -/
theorem pass_script (parley : Parley) : parley.pass.2.script = parley.script.tail := by
  have moved (moves : List PeerMove) (before : Parley) :
      (moves.foldl (fun parley move => move.perform parley) before).script = before.script := by
    induction moves generalizing before with
    | nil => rfl
    | cons move rest ih =>
        rw [List.foldl_cons, ih, move.perform_script]
  unfold pass
  cases script : parley.script with
  | nil => exact script
  | cons interlude later => exact moved interlude.moves _

theorem send_script (id : SocketId) (frame : ByteArray) (more : Bool) (parley : Parley) :
    (fabric.send id frame more parley).2.script = parley.script.tail := by
  have refused (before : Parley) : (before.noteRefusal id).script = before.script := by
    unfold noteRefusal
    split
    · split <;> rfl
    · rfl
  rw [← pass_script]
  change (send id frame more parley).2.script = _
  unfold send
  dsimp only
  split
  · exact refused _
  · split
    · exact refused _
    · split <;> rfl

theorem poll_script (id : SocketId) (readiness : Readiness) (wait : Wait) (parley : Parley) :
    (fabric.poll id readiness wait parley).2.script = parley.script.tail := by
  have told (before : Parley) (ready : Bool) :
      (before.notePolled id readiness ready).script = before.script := by
    unfold notePolled
    split <;> rfl
  rw [← pass_script]
  change (poll id readiness wait parley).2.script = _
  unfold poll
  dsimp only
  split
  · rfl
  · exact told _ _
  · split
    · rfl
    · exact told _ _

theorem script_ne_nil_of_interrupted {id : SocketId} {readiness : Readiness} {wait : Wait}
    {parley after : Parley}
    (interrupted : fabric.poll id readiness wait parley = (.error .interrupted, after)) :
    parley.script ≠ [] := by
  intro empty
  have step : poll id readiness wait parley = (.error .interrupted, after) := interrupted
  unfold poll pass at step
  rw [empty] at step
  dsimp only at step
  split at step
  · next fault network failed =>
      obtain ⟨same, -⟩ := Prod.mk.inj step
      have unlike := parley.network.poll_ne_interrupted id readiness wait
      rw [failed] at unlike
      exact unlike same
  · cases step

theorem sendFrames_script (id : SocketId) (frames : List ByteArray) (parley : Parley) :
    (fabric.sendFrames id frames parley).2.script.length ≤ parley.script.length := by
  induction frames generalizing parley with
  | nil => exact Nat.le_refl _
  | cons frame rest ih =>
      have shorter := send_script id frame (!rest.isEmpty) parley
      rw [Fabric.sendFrames]
      cases sending : fabric.send id frame (!rest.isEmpty) parley with
      | mk result middle =>
          rw [sending] at shorter
          have fewer : middle.script.length ≤ parley.script.length := by
            rw [shorter, List.length_tail]
            exact Nat.sub_le _ _
          cases result with
          | error fault => exact fewer
          | ok sent => exact Nat.le_trans (ih middle) fewer

end Parley

end TaskLink
