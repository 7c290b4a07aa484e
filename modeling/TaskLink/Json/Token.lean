import TaskLink.Json.Numeral
import TaskLink.Json.Quoted

/-!
# Tokens of data texts

A text is split into tokens without regard to where each may stand.  Numbers
and texts keep their value or the fault that decoding met, because a reader
that skips them does not decode them.
-/

namespace TaskLink

/-- What a token is; `broken` ends the row and says whether it began as a text. -/
inductive JsonMark (ν τ : Type) where
  | openArray
  | closeArray
  | openObject
  | closeObject
  | comma
  | colon
  | null
  | bool (value : Bool)
  | number (value : ν)
  | text (value : τ)
  | broken (asText : Bool) (fault : JsonFault)
  | stray

structure JsonToken (ν τ : Type) where
  mark : JsonMark ν τ
  source : List Char

abbrev SettledToken := JsonToken JsonNumber String

abbrev DraftToken := JsonToken (Except JsonFault JsonNumber) (Except JsonFault String)

/-! ## Words and blanks -/

def isJsonBlank (c : Char) : Bool :=
  c == ' ' || c == '\t' || c == '\n' || c == '\r'

def scanWord : List Char → List Char → Except JsonFault (List Char)
  | [], rest => .ok rest
  | _ :: _, [] => .error JsonReason.endInValue.atEnd
  | expected :: more, c :: rest =>
      if c == expected then scanWord more rest
      else .error (JsonReason.expectedWord.here (c :: rest))

/-! ## One token -/

def firstToken (c : Char) (rest : List Char) :
    JsonMark (Except JsonFault JsonNumber) (Except JsonFault String) × Option (List Char) :=
  let word (letters : List Char)
      (mark : JsonMark (Except JsonFault JsonNumber) (Except JsonFault String)) :=
    match scanWord letters rest with
    | .ok rest => (mark, some rest)
    | .error fault => (.broken false fault, none)
  match c with
  | '[' => (.openArray, some rest)
  | ']' => (.closeArray, some rest)
  | '\x7b' => (.openObject, some rest)
  | '\x7d' => (.closeObject, some rest)
  | ',' => (.comma, some rest)
  | ':' => (.colon, some rest)
  | 'n' => word ['u', 'l', 'l'] .null
  | 't' => word ['r', 'u', 'e'] (.bool true)
  | 'f' => word ['a', 'l', 's', 'e'] (.bool false)
  | '"' =>
      let (units, closed) := textUnits [] rest
      let value := decodeUnits units
      match closed, value with
      | some rest, value => (.text value, some rest)
      | none, .error fault => (.broken true fault, none)
      | none, .ok _ => (.broken true JsonReason.endInText.atEnd, none)
  | c =>
      if c == '-' || isDigit c then
        match scanNumeral (c :: rest) with
        | .ok (numeral, rest) => (.number (numeral.value rest), some rest)
        | .error fault => (.broken false fault, none)
      else (.stray, none)

/-! ## All tokens -/

/-- At most `fuel` tokens of a text, the row ending at the first broken or stray one. -/
def tokensWithin : Nat → List Char → List DraftToken
  | 0, _ => []
  | fuel + 1, text =>
      match text.dropWhile isJsonBlank with
      | [] => []
      | c :: rest =>
          match firstToken c rest with
          | (mark, some after) => ⟨mark, c :: rest⟩ :: tokensWithin fuel after
          | (mark, none) => [⟨mark, c :: rest⟩]

def jsonTokens (text : List Char) : List DraftToken :=
  tokensWithin text.length text

namespace JsonToken

def settle (token : DraftToken) : SettledToken :=
  let mark : JsonMark JsonNumber String :=
    match token.mark with
    | .openArray => .openArray
    | .closeArray => .closeArray
    | .openObject => .openObject
    | .closeObject => .closeObject
    | .comma => .comma
    | .colon => .colon
    | .null => .null
    | .bool value => .bool value
    | .number (.ok value) => .number value
    | .number (.error fault) => .broken false fault
    | .text (.ok value) => .text value
    | .text (.error fault) => .broken true fault
    | .broken asText fault => .broken asText fault
    | .stray => .stray
  ⟨mark, token.source⟩

end JsonToken

end TaskLink
