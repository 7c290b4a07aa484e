/-!
# Preemption flags

A mask of bits that ask a waiting call to give up.  The caller decides what
each bit means.
-/

namespace TaskLink

structure PreemptFlags where
  mask : UInt32 := 0
  deriving DecidableEq

namespace PreemptFlags

def raise (flags : PreemptFlags) (bits : UInt32) : PreemptFlags :=
  ⟨flags.mask ||| bits⟩

def clear (flags : PreemptFlags) (bits : UInt32) : PreemptFlags :=
  ⟨flags.mask &&& ~~~bits⟩

def clearAll (_ : PreemptFlags) : PreemptFlags :=
  ⟨0⟩

def isPreempted (flags : PreemptFlags) (bits : UInt32) : Bool :=
  flags.mask &&& bits != 0

theorem isPreempted_zero (flags : PreemptFlags) : flags.isPreempted 0 = false := by
  simp [isPreempted]

end PreemptFlags

end TaskLink
