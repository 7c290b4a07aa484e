import TaskLink.Duration
import TaskLink.Number.Shortest

/-!
# Numbers as text

How numbers are written, in plain positional decimals and in the form that
switches to an exponent, and how unsigned whole numbers and decimals are read
from settings.
-/

namespace TaskLink

/-! ## Positional decimals -/

namespace Decimal

def digitChars (value : Decimal) : List Char :=
  Nat.toDigits 10 value.digits

def leading (value : Decimal) : Int :=
  (value.digitChars.length : Int) + value.exponent - 1

/-- Positional notation: no exponent and no point unless a fraction follows. -/
def positional (value : Decimal) : String :=
  let digits := value.digitChars
  if 0 ≤ value.exponent then
    String.ofList (digits ++ List.replicate value.exponent.toNat '0')
  else
    let places := (-value.exponent).toNat
    if places < digits.length then
      let whole := digits.length - places
      String.ofList (digits.take whole ++ '.' :: digits.drop whole)
    else
      String.ofList ('0' :: '.' :: (List.replicate (places - digits.length) '0' ++ digits))

def scientific (value : Decimal) : String :=
  let mantissa : List Char :=
    match value.digitChars with
    | [] => []
    | [first] => [first]
    | first :: rest => first :: '.' :: rest
  let exponent := value.leading
  let sign := if exponent < 0 then '-' else '+'
  String.ofList (mantissa ++ 'e' :: sign :: Nat.toDigits 10 exponent.natAbs)

end Decimal

namespace Double

def signed (negative : Bool) (magnitude : String) : String :=
  if negative then "-" ++ magnitude else magnitude

/-- Plain text: shortest digits, never an exponent, no fraction on whole numbers. -/
def plainText : Double → String
  | .nan => "NaN"
  | .infinity negative => signed negative "inf"
  | .finite negative significand power =>
      if significand == 0 then signed negative "0"
      else signed negative (shortest .up significand power).positional

/-- Exchange text: a fraction digit on whole numbers, an exponent below 1e-5 and from 1e16. -/
def exchangeText : Double → String
  | .nan => "null"
  | .infinity _ => "null"
  | .finite negative significand power =>
      if significand == 0 then signed negative "0.0"
      else
        let decimal := shortest .toEven significand power
        let leading := decimal.leading
        let magnitude :=
          if -5 ≤ leading ∧ leading ≤ 15 then
            if 0 ≤ decimal.exponent then decimal.positional ++ ".0" else decimal.positional
          else decimal.scientific
        signed negative magnitude

end Double

/-! ## Seconds -/

namespace Duration

/-- The span in seconds: whole seconds and the rest converted apart, then added. -/
def seconds (span : Duration) : Double :=
  (Double.ofNat span.secs).addAbs
    ((Double.ofNat span.subsecNanos).divAbs (Double.ofNat nanosPerSec))

def secondsText (span : Duration) : String :=
  span.seconds.plainText

def millisText (span : Duration) : String :=
  let millis := roundDiv span.nanos nanosPerMilli
  let places := toString (millis % 1000)
  let zeros := String.ofList (List.replicate (3 - places.length) '0')
  s!"{millis / 1000}.{zeros}{places}"

/-- A positive number of seconds below 2 ^ 64, to the nearest nanosecond. -/
def ofSeconds? (value : Double) : Option Duration :=
  match value with
  | .finite false significand power =>
      let (num, den) := Double.ratio (.finite false significand power)
      let nanos := roundDiv (num * nanosPerSec) den
      if significand == 0 then none
      else if h : nanos < UInt64.size * nanosPerSec then
        if num < UInt64.size * den then some ⟨nanos, h⟩ else none
      else none
  | _ => none

end Duration

/-! ## Reading -/

def isDigit (c : Char) : Bool :=
  '0' ≤ c && c ≤ '9'

def digitsValue (digits : List Char) : Nat :=
  digits.foldl (fun value c => value * 10 + (c.toNat - '0'.toNat)) 0

def spanDigits (text : List Char) : List Char × List Char :=
  (text.takeWhile isDigit, text.dropWhile isDigit)

def readUnsigned? (text : String) : Option Nat :=
  let digits := match text.toList with
    | '+' :: rest => rest
    | other => other
  if digits.isEmpty || !digits.all isDigit then none else some (digitsValue digits)

def readPort? (text : String) : Option UInt16 :=
  match readUnsigned? text with
  | some value => if value < UInt16.size then some (UInt16.ofNat value) else none
  | none => none

namespace Double

def readExponent? : List Char → Option Int
  | [] => some 0
  | mark :: rest =>
      if mark == 'e' || mark == 'E' then
        let (negative, digits) := match rest with
          | '-' :: digits => (true, digits)
          | '+' :: digits => (false, digits)
          | digits => (false, digits)
        if digits.isEmpty || !digits.all isDigit then none
        else if negative then some (-(digitsValue digits : Int))
        else some (digitsValue digits)
      else none

/-- An unsigned decimal: digits with an optional point among or around them. -/
def readMagnitude? (negative : Bool) (text : List Char) : Option Double :=
  let (whole, rest) := spanDigits text
  let (fraction, rest) := match rest with
    | '.' :: rest => spanDigits rest
    | rest => ([], rest)
  if whole.isEmpty && fraction.isEmpty then none
  else
    match readExponent? rest with
    | some exponent =>
        some (ofDecimal negative (digitsValue (whole ++ fraction)) (exponent - fraction.length))
    | none => none

/-- A decimal number, `inf`, `infinity` or `nan` in any case, with an optional sign. -/
def read? (text : String) : Option Double :=
  let (negative, body) := match text.toList with
    | '-' :: rest => (true, rest)
    | '+' :: rest => (false, rest)
    | other => (false, other)
  let word := String.ofList (body.map Char.toLower)
  if word == "inf" || word == "infinity" then some (.infinity negative)
  else if word == "nan" then some .nan
  else readMagnitude? negative body

end Double

end TaskLink
