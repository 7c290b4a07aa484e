/-!
# Durations

A span of time in whole nanoseconds.  The longest one is one nanosecond short
of 2 ^ 64 seconds, and every operation stops there instead of overflowing.
-/

namespace TaskLink

def nanosPerSec : Nat := 1000000000

def nanosPerMilli : Nat := 1000000

def nanosPerMicro : Nat := 1000

structure Duration where
  nanos : Nat
  nanos_lt : nanos < UInt64.size * nanosPerSec
  deriving DecidableEq

namespace Duration

/-! ## Building -/

def longest : Duration :=
  ⟨UInt64.size * nanosPerSec - 1, by decide⟩

def zero : Duration :=
  ⟨0, by decide⟩

instance : Inhabited Duration := ⟨zero⟩

/-- The given number of nanoseconds, or the longest duration if they are too many. -/
def ofNanos (nanos : Nat) : Duration :=
  if h : nanos < UInt64.size * nanosPerSec then ⟨nanos, h⟩ else longest

def ofMillis (millis : Nat) : Duration :=
  ofNanos (millis * nanosPerMilli)

def ofSecs (secs : Nat) : Duration :=
  ofNanos (secs * nanosPerSec)

/-! ## Parts -/

def secs (span : Duration) : Nat :=
  span.nanos / nanosPerSec

/-- Nanoseconds past the last whole second. -/
def subsecNanos (span : Duration) : Nat :=
  span.nanos % nanosPerSec

def millis (span : Duration) : Nat :=
  span.nanos / nanosPerMilli

def micros (span : Duration) : Nat :=
  span.nanos / nanosPerMicro

def isZero (span : Duration) : Bool :=
  span.nanos == 0

/-! ## Arithmetic -/

def times (span : Duration) (count : Nat) : Duration :=
  ofNanos (span.nanos * count)

def min (first second : Duration) : Duration :=
  if first.nanos ≤ second.nanos then first else second

/-! ## Laws -/

theorem nanos_ofNanos (nanos : Nat) :
    (ofNanos nanos).nanos = Nat.min nanos (UInt64.size * nanosPerSec - 1) := by
  unfold ofNanos
  split
  · next h => exact (Nat.min_eq_left (Nat.le_sub_one_of_lt h)).symm
  · next h => exact (Nat.min_eq_right (Nat.le_trans (Nat.sub_le _ _) (Nat.le_of_not_lt h))).symm

theorem secs_lt (span : Duration) : span.secs < UInt64.size :=
  Nat.div_lt_of_lt_mul (by rw [Nat.mul_comm]; exact span.nanos_lt)

theorem subsecNanos_lt (span : Duration) : span.subsecNanos < nanosPerSec :=
  Nat.mod_lt _ (by decide)

theorem secs_add_subsecNanos (span : Duration) :
    span.secs * nanosPerSec + span.subsecNanos = span.nanos := by
  rw [Nat.mul_comm]
  exact Nat.div_add_mod _ _

theorem nanos_min (first second : Duration) :
    (first.min second).nanos = Nat.min first.nanos second.nanos := by
  unfold min
  split
  · next h => exact (Nat.min_eq_left h).symm
  · next h => exact (Nat.min_eq_right (Nat.le_of_not_le h)).symm

end Duration

end TaskLink
