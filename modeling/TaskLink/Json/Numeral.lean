import TaskLink.Json.Fault
import TaskLink.Json.Tree
import TaskLink.Number.Text

/-!
# Numerals

The grammar of numbers in data texts and the value each one stands for.  A
numeral without fraction and exponent is a whole number when 64 bits hold it.
All others become doubles in one operation from a significand of 64 bits and
a power of ten, which is not always the nearest double.
-/

namespace TaskLink

/-- The parts of a numeral, with the input after its exponent's sign. -/
structure Numeral where
  negative : Bool
  whole : List Char
  fraction : List Char
  exponent : Option (Bool × List Char)
  exponentSource : List Char

/-! ## Grammar -/

def digitFault (rest : List Char) : JsonFault :=
  if rest.isEmpty then JsonReason.endInValue.atEnd else JsonReason.invalidNumber.here rest

def scanFraction : List Char → Except JsonFault (List Char × List Char)
  | '.' :: rest =>
      let (digits, rest) := spanDigits rest
      if digits.isEmpty then .error (digitFault rest) else .ok (digits, rest)
  | rest => .ok ([], rest)

def scanSign : List Char → Bool × List Char
  | '-' :: rest => (true, rest)
  | '+' :: rest => (false, rest)
  | rest => (false, rest)

/-- An exponent's sign and digits, if a letter starts one. -/
def scanExponent (text : List Char) :
    Except JsonFault (Option (Bool × List Char) × List Char × List Char) :=
  match text with
  | mark :: rest =>
      if mark == 'e' || mark == 'E' then
        let (negative, source) := scanSign rest
        let (digits, rest) := spanDigits source
        if digits.isEmpty then .error (digitFault rest)
        else .ok (some (negative, digits), source, rest)
      else .ok (none, [], text)
  | [] => .ok (none, [], text)

def scanWhole (text : List Char) : Except JsonFault (List Char × List Char) :=
  match spanDigits text with
  | ([], rest) => .error (digitFault rest)
  | ('0' :: second :: more, rest) =>
      .error (JsonReason.invalidNumber.here (second :: more ++ rest))
  | (digits, rest) => .ok (digits, rest)

def scanNumeral (text : List Char) : Except JsonFault (Numeral × List Char) := do
  let (negative, body) := match text with
    | '-' :: rest => (true, rest)
    | rest => (false, rest)
  let (whole, rest) ← scanWhole body
  let (fraction, rest) ← scanFraction rest
  let (exponent, exponentSource, rest) ← scanExponent rest
  return (⟨negative, whole, fraction, exponent, exponentSource⟩, rest)

/-! ## Value -/

/-- Append digits to a significand of 64 bits; the rest counts the digits that no longer fit. -/
def gatherDigits (significand : Nat) : List Char → Nat × Nat
  | [] => (significand, 0)
  | c :: rest =>
      let next := significand * 10 + (c.toNat - '0'.toNat)
      if next < UInt64.size then gatherDigits next rest else (significand, rest.length + 1)

def powerOfTen (exponent : Nat) : Double :=
  Double.ofDecimal false 1 exponent

def scaleDown : Nat → Double → Int → Double
  | 0, value, _ => value
  | fuel + 1, value, exponent =>
      if value.ratio.1 == 0 then value
      else if exponent < -308 then
        scaleDown fuel (value.divAbs (powerOfTen 308)) (exponent + 308)
      else value.divAbs (powerOfTen exponent.natAbs)

/-- The double made of a significand and a power of ten, if it is finite. -/
def scaleDouble (negative : Bool) (significand : Nat) (exponent : Int) : Option Double :=
  let value := Double.ofNat significand
  if exponent < 0 then some ((scaleDown 6 value exponent).withSign negative)
  else if exponent ≤ 308 then
    let product := value.mulAbs (powerOfTen exponent.toNat)
    if product.isInfinite then none else some (product.withSign negative)
  else if significand == 0 then some (Double.zero negative)
  else none

/-- How many digits an exponent has when its value first exceeds 31 bits. -/
def exponentOverflow? (value read : Nat) : List Char → Option Nat
  | [] => none
  | c :: rest =>
      let next := value * 10 + (c.toNat - '0'.toNat)
      if 2147483647 < next then some (read + 1) else exponentOverflow? next (read + 1) rest

namespace Numeral

/-- The whole number that a row of digits with a sign stands for, if it stays one. -/
def wholeValue (negative : Bool) (significand : Nat) : JsonNumber :=
  if negative then
    if significand == 0 then .double (Double.zero true)
    else if significand ≤ 9223372036854775808 then .whole (-(significand : Int))
    else .double ((Double.ofNat significand).withSign true)
  else .whole significand

def doubleValue (numeral : Numeral) (significand : Nat) (shift : Int) (rest : List Char) :
    Except JsonFault JsonNumber :=
  let scaled (exponent : Int) : Except JsonFault JsonNumber :=
    match scaleDouble numeral.negative significand exponent with
    | some value => .ok (.double value)
    | none => .error (JsonReason.numberOutOfRange.before rest)
  match numeral.exponent with
  | none => scaled shift
  | some (negative, digits) =>
      match exponentOverflow? 0 0 digits with
      | some read =>
          if significand != 0 && !negative then
            .error (JsonReason.numberOutOfRange.before (numeral.exponentSource.drop read))
          else .ok (.double (Double.zero numeral.negative))
      | none =>
          let exponent := digitsValue digits
          scaled (if negative then shift - exponent else shift + exponent)

def value (numeral : Numeral) (rest : List Char) : Except JsonFault JsonNumber :=
  let (significand, dropped) := gatherDigits 0 numeral.whole
  if numeral.fraction.isEmpty && numeral.exponent.isNone then
    if dropped == 0 then .ok (wholeValue numeral.negative significand)
    else numeral.doubleValue significand dropped rest
  else
    let (significand, unread) := gatherDigits significand numeral.fraction
    numeral.doubleValue significand
      ((dropped : Int) - (numeral.fraction.length - unread : Nat)) rest

end Numeral

end TaskLink
