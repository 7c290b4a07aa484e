/-!
# Double-precision numbers

A double-precision number as data: a sign, a significand below 2 ^ 53 and a
power of two.  Every operation computes an exact quotient of natural numbers
and rounds it once, to the nearest number and to the even one of two equally
near.
-/

namespace TaskLink

/-! ## Rounding a quotient -/

/-- The quotient rounded to the nearest whole number, a half to the even neighbour. -/
def roundDiv (num den : Nat) : Nat :=
  let quotient := num / den
  let twice := 2 * (num % den)
  if twice < den || (twice == den && quotient % 2 == 0) then quotient else quotient + 1

/-- A number of the binary interchange format with 64 bits. -/
inductive Double where
  | nan
  | infinity (negative : Bool)
  | finite (negative : Bool) (significand : Nat) (power : Int)
  deriving DecidableEq, Repr

namespace Double

instance : Inhabited Double := ⟨.finite false 0 (-1074)⟩

def zero (negative : Bool) : Double :=
  .finite negative 0 (-1074)

/-! ## Quotients -/

def leastNormal : Nat := 4503599627370496

/-- The quotient `num / den` as a fraction whose parts absorb the factor 2 ^ -power. -/
def shifted (num den : Nat) (power : Int) : Nat × Nat :=
  if 0 ≤ power then (num, den <<< power.toNat) else (num <<< (-power).toNat, den)

/-- The power of two at which `num / den` has a significand of 53 bits, or the least one. -/
def powerOf (num den : Nat) : Int :=
  let guess : Int := (num.log2 : Int) - den.log2 - 52
  let (high, low) := shifted num den guess
  let power := if high / low < leastNormal then guess - 1 else guess
  if power < -1074 then -1074 else power

def ofRatio (negative : Bool) (num den : Nat) : Double :=
  if num == 0 then zero negative
  else
    let power := powerOf num den
    let (high, low) := shifted num den power
    let significand := roundDiv high low
    let carried := significand == 2 * leastNormal
    let power := if carried then power + 1 else power
    if 971 < power then .infinity negative
    else .finite negative (if carried then leastNormal else significand) power

def ofNat (value : Nat) : Double :=
  ofRatio false value 1

def ratio : Double → Nat × Nat
  | .finite _ significand power =>
      if 0 ≤ power then (significand <<< power.toNat, 1) else (significand, 1 <<< (-power).toNat)
  | _ => (0, 1)

def isInfinite : Double → Bool
  | .infinity _ => true
  | _ => false

def withSign (negative : Bool) : Double → Double
  | .nan => .nan
  | .infinity _ => .infinity negative
  | .finite _ significand power => .finite negative significand power

/-! ## Decimal fractions -/

def decimalLength (value : Nat) : Nat :=
  if value == 0 then 0 else (Nat.toDigits 10 value).length

def ofDecimal (negative : Bool) (digits : Nat) (exponent : Int) : Double :=
  let size := exponent + decimalLength digits
  if digits == 0 then zero negative
  else if 400 < size then .infinity negative
  else if size < -400 then zero negative
  else if 0 ≤ exponent then ofRatio negative (digits * Nat.pow 10 exponent.toNat) 1
  else ofRatio negative digits (Nat.pow 10 (-exponent).toNat)

/-! ## Arithmetic on magnitudes -/

def mulAbs (first second : Double) : Double :=
  let (num, den) := first.ratio
  let (otherNum, otherDen) := second.ratio
  ofRatio false (num * otherNum) (den * otherDen)

/-- The quotient of two magnitudes, rounded once; the divisor is not zero. -/
def divAbs (first second : Double) : Double :=
  let (num, den) := first.ratio
  let (otherNum, otherDen) := second.ratio
  ofRatio false (num * otherDen) (den * otherNum)

def addAbs (first second : Double) : Double :=
  let (num, den) := first.ratio
  let (otherNum, otherDen) := second.ratio
  ofRatio false (num * otherDen + otherNum * den) (den * otherDen)

end Double

end TaskLink
