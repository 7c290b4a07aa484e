import TaskLink.Proofs.Messaging.NetworkSockets
import TaskLink.Scenario.Stage

/-!
# Reading frame by frame

A message can be read in a loop that asks after each frame whether more follow.
Over a library whose frames count down to the last of their message the loop
ends, and it reads what is read by the count that comes with the first frame.
-/

namespace TaskLink

namespace Fabric

variable {σ β : Type} (fabric : Fabric σ)

/-! ## The loop -/

/-- Add up the frames of a message while more follow, as far as the fuel goes. -/
def gatherWhileMore (add : β → ByteArray → β) (socket : SocketId) :
    Nat → Bool → β → σ → Option (Except SocketFault β × σ)
  | _, false, read, s => some (.ok read, s)
  | 0, true, _, _ => none
  | fuel + 1, true, read, s =>
      match fabric.receive socket s with
      | (.error fault, s) => some (.error fault, s)
      | (.ok frame, s) =>
          gatherWhileMore add socket fuel (frame.following != 0) (add read frame.bytes) s

def readWhileMore (start : ByteArray → β) (add : β → ByteArray → β) (socket : SocketId)
    (fuel : Nat) (s : σ) : Option (Except SocketFault β × σ) :=
  match fabric.receive socket s with
  | (.error fault, s) => some (.error fault, s)
  | (.ok frame, s) =>
      fabric.gatherWhileMore add socket fuel (frame.following != 0) (start frame.bytes) s

/-! ## Counting down -/

/-- A frame that is not the last of its message is followed by a frame with fewer after it, by one. -/
def CountsDown : Prop :=
  ∀ socket s frame middle next after, fabric.receive socket s = (.ok frame, middle) →
    frame.following ≠ 0 → fabric.receive socket middle = (.ok next, after) →
    frame.following = next.following + 1

variable {fabric} {socket : SocketId} {add : β → ByteArray → β} {value : List ByteArray → β}

/-- The loop gathers as many frames as are counted, if the next of them tells the same number. -/
theorem CountsDown.gatherWhileMore_eq (counts : fabric.CountsDown)
    (adds : ∀ frames frame, frames ≠ [] → add (value frames) frame = value (frames ++ [frame]))
    {count fuel : Nat} (enough : count ≤ fuel) {frames : List ByteArray} (begun : frames ≠ [])
    {s : σ} (isNext : ∀ next after, fabric.receive socket s = (.ok next, after) → count ≠ 0 →
      count = next.following + 1) :
    fabric.gatherWhileMore add socket fuel (count != 0) (value frames) s =
      some ((fabric.collectFollowing socket count frames s).1.map value,
        (fabric.collectFollowing socket count frames s).2) := by
  induction count generalizing fuel frames s with
  | zero => cases fuel <;> rfl
  | succ count ih =>
      obtain ⟨fuel, rfl⟩ := Nat.exists_eq_add_of_le' (Nat.lt_of_lt_of_le count.succ_pos enough)
      change fabric.gatherWhileMore add socket (fuel + 1) true (value frames) s = _
      rw [gatherWhileMore, collectFollowing]
      cases received : fabric.receive socket s with
      | mk result after =>
          cases result with
          | error fault => rfl
          | ok frame =>
              have same : count = frame.following :=
                Nat.succ.inj (isNext frame after received count.succ_ne_zero)
              dsimp only
              rw [adds frames frame.bytes begun, ← same]
              refine ih (Nat.le_of_succ_le_succ enough)
                (List.append_ne_nil_of_right_ne_nil _ (List.cons_ne_nil _ _)) ?_
              intro next last again more
              rw [same] at more ⊢
              exact counts socket s frame after next last received more again

theorem CountsDown.readWhileMore_eq (counts : fabric.CountsDown) {start : ByteArray → β}
    (starts : ∀ frame, start frame = value [frame])
    (adds : ∀ frames frame, frames ≠ [] → add (value frames) frame = value (frames ++ [frame]))
    (s : σ) :
    ∃ enough, ∀ fuel ≥ enough, fabric.readWhileMore start add socket fuel s =
      some ((fabric.receiveFrames socket s).1.map value, (fabric.receiveFrames socket s).2) := by
  unfold readWhileMore receiveFrames
  cases received : fabric.receive socket s with
  | mk result after =>
      cases result with
      | error fault => exact ⟨0, fun _ _ => rfl⟩
      | ok frame =>
          refine ⟨frame.following, fun fuel enough => ?_⟩
          dsimp only
          rw [starts]
          refine counts.gatherWhileMore_eq adds enough (List.cons_ne_nil _ _) ?_
          intro next last again more
          exact counts socket s frame after next last received more again

theorem CountsDown.receiveFrames_eq_loop (counts : fabric.CountsDown) (s : σ) :
    ∃ enough, ∀ fuel ≥ enough,
      fabric.readWhileMore ([·]) (fun frames frame => frames ++ [frame]) socket fuel s =
        some (fabric.receiveFrames socket s) := by
  have unchanged : fabric.receiveFrames socket s =
      ((fabric.receiveFrames socket s).1.map id, (fabric.receiveFrames socket s).2) := by
    rw [Except.map_id]
    rfl
  rw [unchanged]
  refine counts.readWhileMore_eq ?_ ?_ s
  · exact fun _ => rfl
  · exact fun _ _ _ => rfl

/-- Reading a message as one payload is the loop that joins its frames. -/
theorem CountsDown.receiveJoined_eq_loop (counts : fabric.CountsDown) (s : σ) :
    ∃ enough, ∀ fuel ≥ enough,
      fabric.readWhileMore id (· ++ ·) socket fuel s = some (fabric.receiveJoined socket s) := by
  rw [receiveJoined_eq]
  exact counts.readWhileMore_eq (fun _ => rfl)
    (fun _ frame begun => (joinFrames_concat begun frame).symm) s

end Fabric

/-! ## Networks -/

namespace Network

/-- The number that comes with a frame is that of the frames left in its message. -/
theorem following_of_receive {network after : Network} {id sender : SocketId}
    {socket : NetworkSocket} {next : ByteArray} {rest : List ByteArray} {later : List Parcel}
    {frame : ReceivedFrame} (usable : network.usable id = .ok socket)
    (turn : socket.turn = .toReceive) (inbox : socket.inbox = ⟨sender, next, rest⟩ :: later)
    (received : network.receive id = (.ok frame, after)) : frame.following = rest.length := by
  cases rest with
  | nil =>
      obtain ⟨_, result, -⟩ := receive_last usable turn inbox
      cases received.symm.trans result
      rfl
  | cons second rest =>
      obtain ⟨_, result, -⟩ := receive_more usable turn inbox
      cases received.symm.trans result
      rfl

/-- With each frame that is read from a network one frame less is left of its message. -/
theorem countsDown : fabric.CountsDown := by
  intro id network frame middle next after received more again
  obtain ⟨fault, failed⟩ | ⟨socket, parcel, later, usable, turn, inbox⟩ :=
    network.receive_cases id
  · cases received.symm.trans failed
  · obtain ⟨sender, first, rest⟩ := parcel
    have left := following_of_receive usable turn inbox received
    cases rest with
    | nil => exact absurd left more
    | cons second rest =>
        obtain ⟨_, result, replaces⟩ := receive_more usable turn inbox
        cases received.symm.trans result
        exact congrArg (· + 1)
          (following_of_receive (replaces.usable usable rfl) turn rfl again).symm

end Network

/-- What happens on a stage beside its network does not touch the frames that are left. -/
theorem Stage.countsDown : Stage.fabric.CountsDown := by
  intro socket stage frame middle next after received more again
  obtain ⟨readFirst, rfl⟩ := Prod.mk.inj received
  obtain ⟨readNext, rfl⟩ := Prod.mk.inj again
  exact Network.countsDown socket stage.network frame _ next _ (Prod.ext readFirst rfl) more
    (Prod.ext readNext rfl)

end TaskLink
