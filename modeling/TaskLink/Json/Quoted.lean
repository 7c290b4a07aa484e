import TaskLink.Json.Fault

/-!
# Quoted texts

The body of a quoted text is first split into units by the grammar alone:
plain characters, escapes of one letter, and escapes of four hexadecimal
digits.  Decoding then pairs the digits' surrogates.  A reader that skips a
text needs the first step only.
-/

namespace TaskLink

inductive TextUnit where
  | char (c : Char)
  | code (value : Nat)
  | broken (fault : JsonFault)
  deriving DecidableEq

/-! ## Escapes -/

def escapeLetter? : Char → Option Char
  | '"' => some '"'
  | '\\' => some '\\'
  | '/' => some '/'
  | 'b' => some '\x08'
  | 'f' => some '\x0c'
  | 'n' => some '\n'
  | 'r' => some '\r'
  | 't' => some '\t'
  | _ => none

def hexDigit? (c : Char) : Option Nat :=
  if '0' ≤ c && c ≤ '9' then some (c.toNat - '0'.toNat)
  else if 'a' ≤ c && c ≤ 'f' then some (c.toNat - 'a'.toNat + 10)
  else if 'A' ≤ c && c ≤ 'F' then some (c.toNat - 'A'.toNat + 10)
  else none

def hexQuad? (a b c d : Char) : Option Nat :=
  match hexDigit? a, hexDigit? b, hexDigit? c, hexDigit? d with
  | some a, some b, some c, some d => some (((a * 16 + b) * 16 + c) * 16 + d)
  | _, _, _, _ => none

/-- The fault of an escape that lacks four hexadecimal digits in the input after its letter. -/
def hexFault (rest : List Char) : JsonFault :=
  if charBytes rest < 4 then JsonReason.endInText.atEnd
  else ⟨.invalidEscape, rest, 4⟩

/-! ## Units -/

abbrev PlacedUnit := TextUnit × List Char

def textUnits (done : List PlacedUnit) : List Char → List PlacedUnit × Option (List Char)
  | [] => (((.broken JsonReason.endInText.atEnd, []) :: done).reverse, none)
  | '"' :: rest => (done.reverse, some rest)
  | '\\' :: 'u' :: a :: b :: c :: d :: rest =>
      match hexQuad? a b c d with
      | some value => textUnits ((.code value, rest) :: done) rest
      | none => (((.broken (hexFault (a :: b :: c :: d :: rest)), []) :: done).reverse, none)
  | '\\' :: 'u' :: short => (((.broken (hexFault short), []) :: done).reverse, none)
  | '\\' :: letter :: rest =>
      match escapeLetter? letter with
      | some c => textUnits ((.char c, rest) :: done) rest
      | none =>
          (((.broken (JsonReason.invalidEscape.here (letter :: rest)), []) :: done).reverse, none)
  | '\\' :: [] => (((.broken JsonReason.endInText.atEnd, []) :: done).reverse, none)
  | c :: rest =>
      if c < ' ' then
        (((.broken (JsonReason.controlCharacter.here (c :: rest)), []) :: done).reverse, none)
      else textUnits ((.char c, rest) :: done) rest

/-! ## Decoding -/

def isHighSurrogate (code : Nat) : Bool :=
  0xD800 ≤ code && code ≤ 0xDBFF

def isLowSurrogate (code : Nat) : Bool :=
  0xDC00 ≤ code && code ≤ 0xDFFF

def pairedChar (high low : Nat) : Char :=
  Char.ofNat (0x10000 + (high - 0xD800) * 0x400 + (low - 0xDC00))

/-- What is wrong with the input after a first half that no digit escape follows. -/
def unpairedFault? : List Char → Option JsonFault
  | [] => some JsonReason.endInText.atEnd
  | '\\' :: [] => some JsonReason.endInText.atEnd
  | '\\' :: 'u' :: _ => none
  | '\\' :: letter :: rest => some (JsonReason.endOfSurrogatePair.here (letter :: rest))
  | rest => some (JsonReason.endOfSurrogatePair.here rest)

def pairUnits (done : List Char) : List PlacedUnit → Except JsonFault (List Char)
  | [] => .ok done
  | (.char c, _) :: rest => pairUnits (c :: done) rest
  | (.broken fault, _) :: _ => .error fault
  | (.code value, after) :: rest =>
      if isLowSurrogate value then .error (JsonReason.loneSurrogate.before after)
      else if isHighSurrogate value then
        match unpairedFault? after, rest with
        | some fault, _ => .error fault
        | none, (.code low, afterLow) :: rest =>
            if isLowSurrogate low then pairUnits (pairedChar value low :: done) rest
            else .error (JsonReason.loneSurrogate.before afterLow)
        | none, (.broken fault, _) :: _ => .error fault
        | none, _ => .error JsonReason.endInText.atEnd
      else pairUnits (Char.ofNat value :: done) rest

def decodeUnits (units : List PlacedUnit) : Except JsonFault String :=
  match pairUnits [] units with
  | .ok reversed => .ok (String.ofList reversed.reverse)
  | .error fault => .error fault

end TaskLink
