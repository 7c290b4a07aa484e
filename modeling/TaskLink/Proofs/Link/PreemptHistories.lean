import Mathlib.Data.List.Induction
import TaskLink.Link.Preempt

/-!
# Histories of preemption flags

What is raised is told by what was done to the flags, bit by bit: the last
move that touched a bit decides about it, and moves that touch other bits do
not matter.
-/

namespace TaskLink

def hasBit (mask : UInt32) (bit : Nat) : Bool :=
  mask.toBitVec.getLsbD bit

inductive PreemptMove where
  | raise (bits : UInt32)
  | clear (bits : UInt32)
  | clearAll

namespace PreemptMove

def touches (bit : Nat) : PreemptMove → Bool
  | .raise bits | .clear bits => hasBit bits bit
  | .clearAll => true

def lastTouching (bit : Nat) (moves : List PreemptMove) : Option PreemptMove :=
  moves.reverse.find? (touches bit)

/-- The last of the moves that touched a bit raised it. -/
def LastRaises (bit : Nat) (moves : List PreemptMove) : Prop :=
  ∃ bits, lastTouching bit moves = some (.raise bits)

variable {bit : Nat} {moves : List PreemptMove} {move : PreemptMove}

theorem lastTouching_append_of_touches (isTouched : move.touches bit = true) :
    lastTouching bit (moves ++ [move]) = some move := by
  simp [lastTouching, isTouched]

theorem lastTouching_append_of_not_touches (isLeft : move.touches bit = false) :
    lastTouching bit (moves ++ [move]) = lastTouching bit moves := by
  simp [lastTouching, isLeft]

end PreemptMove

namespace PreemptFlags

open PreemptMove

def perform (flags : PreemptFlags) : PreemptMove → PreemptFlags
  | .raise bits => flags.raise bits
  | .clear bits => flags.clear bits
  | .clearAll => flags.clearAll

def after (moves : List PreemptMove) : PreemptFlags :=
  moves.foldl perform {}

variable {bit : Nat} {move : PreemptMove}

theorem after_append (moves : List PreemptMove) (move : PreemptMove) :
    after (moves ++ [move]) = (after moves).perform move := by
  simp [after]

/-- A move that touches a bit raises it or takes it back. -/
theorem hasBit_perform_of_touches (flags : PreemptFlags) (isTouched : move.touches bit = true) :
    hasBit (flags.perform move).mask bit = true ↔ ∃ bits, move = .raise bits := by
  cases move with
  | raise bits =>
      have isIn : bits.toBitVec.getLsbD bit = true := isTouched
      simp [perform, raise, hasBit, isIn]
  | clear bits =>
      have isIn : bits.toBitVec.getLsbD bit = true := isTouched
      simp [perform, clear, hasBit, isIn]
  | clearAll => simp [perform, clearAll, hasBit]

/-- A move leaves the bits that it does not touch as they are. -/
theorem hasBit_perform_of_not_touches (flags : PreemptFlags)
    (isLeft : move.touches bit = false) :
    hasBit (flags.perform move).mask bit = hasBit flags.mask bit := by
  cases move with
  | raise bits =>
      have isOut : bits.toBitVec.getLsbD bit = false := isLeft
      simp [perform, raise, hasBit, isOut]
  | clear bits =>
      have isOut : bits.toBitVec.getLsbD bit = false := isLeft
      have bounded : flags.mask.toBitVec.getLsbD bit = true → bit < 32 :=
        BitVec.lt_of_getLsbD
      simp only [perform, clear, hasBit, UInt32.toBitVec_and, UInt32.toBitVec_not,
        BitVec.getLsbD_and, BitVec.getLsbD_not, isOut]
      cases isSet : flags.mask.toBitVec.getLsbD bit with
      | false => rfl
      | true => simp [bounded isSet]
  | clearAll => cases isLeft

/-- A bit is set if and only if the last move that touched it raised it. -/
theorem hasBit_after_iff (moves : List PreemptMove) (bit : Nat) :
    hasBit (after moves).mask bit = true ↔ LastRaises bit moves := by
  unfold LastRaises
  induction moves using List.reverseRecOn with
  | nil => simp [after, hasBit, lastTouching]
  | append_singleton moves move ih =>
      rw [after_append]
      cases isTouched : move.touches bit with
      | true =>
          rw [hasBit_perform_of_touches _ isTouched, lastTouching_append_of_touches isTouched]
          simp
      | false =>
          rw [hasBit_perform_of_not_touches _ isTouched,
            lastTouching_append_of_not_touches isTouched, ih]

example : LastRaises 2 [.raise 7, .clearAll, .raise 4, .clear 1] :=
  ⟨4, rfl⟩

/-- A wait is to end if and only if some bit that it watches is raised. -/
theorem isPreempted_iff (flags : PreemptFlags) (bits : UInt32) :
    flags.isPreempted bits = true ↔
      ∃ bit, hasBit bits bit = true ∧ hasBit flags.mask bit = true := by
  have isZero : flags.mask &&& bits = 0 ↔
      ∀ bit, hasBit bits bit = true → hasBit flags.mask bit = false := by
    rw [← UInt32.toBitVec_inj]
    constructor
    · intro same bit isWatched
      have isUnset := congrArg (BitVec.getLsbD · bit) same
      simp only [UInt32.toBitVec_and, BitVec.getLsbD_and] at isUnset
      rw [show bits.toBitVec.getLsbD bit = true from isWatched, Bool.and_true] at isUnset
      exact isUnset.trans BitVec.getLsbD_zero
    · intro apart
      apply BitVec.eq_of_getLsbD_eq
      intro bit _
      cases isWatched : bits.toBitVec.getLsbD bit with
      | false => simp [isWatched]
      | true => simpa [hasBit, isWatched] using apart bit isWatched
  simp [isPreempted, isZero]

end PreemptFlags

end TaskLink
