import TaskLink.Number.Double

/-!
# Shortest decimal digits

The fewest decimal digits that read back as the same double, and of those the
ones nearest to it.  A candidate is one of the two neighbours of the number on
a decimal grid; it is admitted when it lies in the interval of reals that
round to the number.
-/

namespace TaskLink

/-- Which of two equally near candidates is taken. -/
inductive Tie where
  | toEven
  | up
  deriving DecidableEq

structure Decimal where
  digits : Nat
  exponent : Int
  deriving DecidableEq, Repr

namespace Decimal

def trim : Nat → Decimal → Decimal
  | 0, value => value
  | fuel + 1, value =>
      if value.digits != 0 && value.digits % 10 == 0 then
        trim fuel ⟨value.digits / 10, value.exponent + 1⟩
      else value

end Decimal

namespace Double

/-- A double's value and the ends of its rounding interval over one denominator. -/
structure Interval where
  value : Nat
  low : Nat
  high : Nat
  den : Nat
  closed : Bool

/-- The reals that round to `significand * 2 ^ power`, in quarters of the last place. -/
def interval (significand : Nat) (power : Int) : Interval :=
  let below := if significand == leastNormal && -1074 < power then 1 else 2
  let scale := if 2 ≤ power then 1 <<< (power - 2).toNat else 1
  let den := if 2 ≤ power then 1 else 1 <<< (2 - power).toNat
  { value := 4 * significand * scale
    low := (4 * significand - below) * scale
    high := (4 * significand + 2) * scale
    den := den
    closed := significand % 2 == 0 }

namespace Interval

def leading (range : Interval) : Int :=
  if range.den ≤ range.value then decimalLength (range.value / range.den) - 1
  else -(decimalLength ((range.den + range.value - 1) / range.value - 1) : Int)

def admits (range : Interval) (count : Nat) : Bool :=
  let point := count * range.den
  if range.closed then range.low ≤ point && point ≤ range.high
  else range.low < point && point < range.high

def onGrid (range : Interval) (exponent : Int) : Interval :=
  if 0 ≤ exponent then { range with den := range.den * Nat.pow 10 exponent.toNat }
  else
    let factor := Nat.pow 10 (-exponent).toNat
    { range with
      value := range.value * factor
      low := range.low * factor
      high := range.high * factor }

/-- The admitted neighbour of the value nearest to it on the grid 10 ^ exponent. -/
def nearest? (range : Interval) (tie : Tie) (exponent : Int) : Option Decimal :=
  let grid := range.onGrid exponent
  let lower := grid.value / grid.den
  let upper := lower + 1
  let distance := grid.value - lower * grid.den
  let other := upper * grid.den - grid.value
  let lowerWins :=
    distance < other ||
      (distance == other && tie == .toEven && lower % 2 == 0)
  if grid.admits lower && (lowerWins || !grid.admits upper) then some ⟨lower, exponent⟩
  else if grid.admits upper then some ⟨upper, exponent⟩
  else none

end Interval

def shortest (tie : Tie) (significand : Nat) (power : Int) : Decimal :=
  let range := interval significand power
  let leading := range.leading
  let candidates := (List.range 17).findSome? fun (count : Nat) =>
    range.nearest? tie (leading - count)
  match candidates with
  | some found => found.trim 20
  | none => ⟨0, 0⟩

end Double

end TaskLink
