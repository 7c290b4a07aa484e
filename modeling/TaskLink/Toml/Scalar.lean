import TaskLink.Number.Text
import TaskLink.Toml.Tree

/-!
# Words of settings texts

Numbers, truth values, dates and times.  Each is one word, except for a date
and a time with a blank between them.
-/

namespace TaskLink

namespace Toml

/-! ## Digits -/

def isHexDigit (c : Char) : Bool :=
  isDigit c || ('a' ≤ c && c ≤ 'f') || ('A' ≤ c && c ≤ 'F')

def hexDigitValue (c : Char) : Nat :=
  if isDigit c then c.toNat - '0'.toNat
  else if 'a' ≤ c then c.toNat - 'a'.toNat + 10
  else c.toNat - 'A'.toNat + 10

/-- Whether digits are separated by at most one underscore each; `after` says one may end here. -/
def isDigitRun (accepts : Char → Bool) (after : Bool) : List Char → Bool
  | [] => after
  | c :: rest =>
      if accepts c then isDigitRun accepts true rest
      else c == '_' && after && isDigitRun accepts false rest

def bareDigits (digits : List Char) : List Char :=
  digits.filter (· != '_')

def splitSign : List Char → Option Bool × List Char
  | '-' :: rest => (some true, rest)
  | '+' :: rest => (some false, rest)
  | rest => (none, rest)

/-! ## Numbers -/

/-- Whether digits form a decimal whole number: a leading zero stands alone. -/
def isDecimal (digits : List Char) : Bool :=
  isDigitRun isDigit false digits && (digits.length == 1 || digits.head? != some '0')

def wholeInRange? (value : Int) : Option Toml :=
  if Int64.minValue.toInt ≤ value ∧ value ≤ Int64.maxValue.toInt then some (.whole value) else none

def basedWhole? (accepts : Char → Bool) (base : Nat) (digits : List Char) : Option Toml :=
  if isDigitRun accepts false digits then
    wholeInRange? ((bareDigits digits).foldl (fun value c => value * base + hexDigitValue c) 0 : Nat)
  else none

def readWhole? (word : List Char) : Option Toml :=
  match word with
  | '0' :: 'x' :: digits => basedWhole? isHexDigit 16 digits
  | '0' :: 'o' :: digits => basedWhole? (fun c => '0' ≤ c && c ≤ '7') 8 digits
  | '0' :: 'b' :: digits => basedWhole? (fun c => c == '0' || c == '1') 2 digits
  | _ =>
      let (sign, digits) := splitSign word
      if isDecimal digits then
        let value : Int := digitsValue (bareDigits digits)
        wholeInRange? (if sign == some true then -value else value)
      else none

def readExponent? (text : List Char) : Option Int :=
  let (sign, digits) := splitSign text
  if isDigitRun isDigit false digits then
    let value : Int := digitsValue (bareDigits digits)
    some (if sign == some true then -value else value)
  else none

def isExponentMark (c : Char) : Bool :=
  c == 'e' || c == 'E'

/-- A number with a fraction or an exponent; one that is too large is refused. -/
def readFraction? (word : List Char) : Option Toml :=
  let (sign, body) := splitSign word
  let mantissa := body.takeWhile fun c => !isExponentMark c
  let exponentPart := body.dropWhile fun c => !isExponentMark c
  let whole := mantissa.takeWhile (· != '.')
  let fractionPart := mantissa.dropWhile (· != '.')
  let fraction := fractionPart.drop 1
  let exponent := match exponentPart with
    | [] => some 0
    | _ :: rest => readExponent? rest
  if !isDecimal whole then none
  else if !fractionPart.isEmpty && !isDigitRun isDigit false fraction then none
  else if fractionPart.isEmpty && exponentPart.isEmpty then none
  else
    match exponent with
    | none => none
    | some exponent =>
        let places := bareDigits fraction
        let value := Double.ofDecimal (sign == some true)
          (digitsValue (bareDigits whole ++ places)) (exponent - places.length)
        if value == .infinity false then none else some (.double value)

def readSpecial? (word : List Char) : Option Toml :=
  let (sign, body) := splitSign word
  if body == ['i', 'n', 'f'] then some (.double (.infinity (sign == some true)))
  else if body == ['n', 'a', 'n'] then some (.double .nan)
  else none

/-! ## Dates and times -/

def twoDigits? (a b : Char) : Option Nat :=
  if isDigit a && isDigit b then some (digitsValue [a, b]) else none

def daysIn (year month : Nat) : Nat :=
  if month == 2 then
    if year % 4 == 0 && (year % 100 != 0 || year % 400 == 0) then 29 else 28
  else if month == 4 || month == 6 || month == 9 || month == 11 then 30
  else 31

def afterDate? : List Char → Option (List Char)
  | y1 :: y2 :: y3 :: y4 :: '-' :: m1 :: m2 :: '-' :: d1 :: d2 :: rest =>
      match twoDigits? y1 y2, twoDigits? y3 y4, twoDigits? m1 m2, twoDigits? d1 d2 with
      | some high, some low, some month, some day =>
          if 1 ≤ month && month ≤ 12 && 1 ≤ day && day ≤ daysIn (high * 100 + low) month then
            some rest
          else none
      | _, _, _, _ => none
  | _ => none

def afterSecondFraction? : List Char → Option (List Char)
  | '.' :: rest =>
      match rest.takeWhile isDigit with
      | [] => none
      | _ => some (rest.dropWhile isDigit)
  | rest => some rest

def afterTime? : List Char → Option (List Char)
  | h1 :: h2 :: ':' :: m1 :: m2 :: ':' :: s1 :: s2 :: rest =>
      match twoDigits? h1 h2, twoDigits? m1 m2, twoDigits? s1 s2 with
      | some hour, some minute, some second =>
          if hour ≤ 23 && minute ≤ 59 && second ≤ 60 then afterSecondFraction? rest else none
      | _, _, _ => none
  | _ => none

def isOffset : List Char → Bool
  | ['Z'] => true
  | ['z'] => true
  | [sign, h1, h2, ':', m1, m2] =>
      match twoDigits? h1 h2, twoDigits? m1 m2 with
      | some hour, some minute => (sign == '+' || sign == '-') && hour ≤ 23 && minute ≤ 59
      | _, _ => false
  | _ => false

def isTimeAndOffset (text : List Char) : Bool :=
  match afterTime? text with
  | some rest => rest.isEmpty || isOffset rest
  | none => false

def readDate? (word : List Char) : Option Toml :=
  match afterDate? word with
  | some [] => some .date
  | some (mark :: rest) =>
      if (mark == 'T' || mark == 't') && isTimeAndOffset rest then some .date else none
  | none =>
      match afterTime? word with
      | some [] => some .date
      | _ => none

/-! ## Words -/

def isWordChar (c : Char) : Bool :=
  c.isAlphanum || c == '_' || c == '+' || c == '-' || c == '.' || c == ':'

def readWord? (word : List Char) : Option Toml :=
  if word == ['t', 'r', 'u', 'e'] then some (.bool true)
  else if word == ['f', 'a', 'l', 's', 'e'] then some (.bool false)
  else (readDate? word).or ((readWhole? word).or ((readFraction? word).or (readSpecial? word)))

def scalar? (text : List Char) : Option (Toml × List Char) :=
  let word := text.takeWhile isWordChar
  let rest := text.dropWhile isWordChar
  match readWord? word, rest with
  | some .date, ' ' :: after =>
      let time := after.takeWhile isWordChar
      if afterDate? word == some [] && (time.head?.map isDigit) == some true then
        if isTimeAndOffset time then some (.date, after.dropWhile isWordChar) else none
      else some (.date, rest)
  | some value, rest => some (value, rest)
  | none, _ => none

end Toml

end TaskLink
