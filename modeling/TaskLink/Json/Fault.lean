import TaskLink.Text.Excerpt

/-!
# Faults of data texts

Why a text is refused and where.  A fault points at a place by the input that
follows it, so that reading needs no counter; the line and the column are
found afterwards.
-/

namespace TaskLink

inductive JsonReason where
  | endInValue
  | endInList
  | endInObject
  | endInText
  | expectedValue
  | expectedWord
  | expectedColon
  | expectedCommaOrBracket
  | expectedCommaOrBrace
  | trailingComma
  | keyNotText
  | invalidNumber
  | numberOutOfRange
  | invalidEscape
  | loneSurrogate
  | endOfSurrogatePair
  | controlCharacter
  | trailingCharacters
  | tooDeep
  deriving DecidableEq

/-- A reason, the input that follows the place, and bytes of it that belong to the place. -/
structure JsonFault where
  reason : JsonReason
  rest : List Char
  extra : Nat
  deriving DecidableEq

namespace JsonReason

/-- Wording of a reason; the colon and the brackets stand between grave accents. -/
def message : JsonReason → String
  | .endInValue => "EOF while parsing a value"
  | .endInList => "EOF while parsing a list"
  | .endInObject => "EOF while parsing an object"
  | .endInText => "EOF while parsing a string"
  | .expectedValue => "expected value"
  | .expectedWord => "expected ident"
  | .expectedColon => "expected \x60:\x60"
  | .expectedCommaOrBracket => "expected \x60,\x60 or \x60]\x60"
  | .expectedCommaOrBrace => "expected \x60,\x60 or \x60\x7d\x60"
  | .trailingComma => "trailing comma"
  | .keyNotText => "key must be a string"
  | .invalidNumber => "invalid number"
  | .numberOutOfRange => "number out of range"
  | .invalidEscape => "invalid escape"
  | .loneSurrogate => "lone leading surrogate in hex escape"
  | .endOfSurrogatePair => "unexpected end of hex escape"
  | .controlCharacter => "control character (\\u0000-\\u001F) found while parsing a string"
  | .trailingCharacters => "trailing characters"
  | .tooDeep => "recursion limit exceeded"

def here (reason : JsonReason) (rest : List Char) : JsonFault :=
  ⟨reason, rest, 1⟩

def before (reason : JsonReason) (rest : List Char) : JsonFault :=
  ⟨reason, rest, 0⟩

def atEnd (reason : JsonReason) : JsonFault :=
  ⟨reason, [], 0⟩

end JsonReason

/-! ## Lines and columns -/

def lineColumn (line column room : Nat) : List Char → Nat × Nat
  | [] => (line, column + room)
  | c :: rest =>
      if room < c.utf8Size then (line, column + room)
      else if c == '\n' then lineColumn (line + 1) 0 (room - 1) rest
      else lineColumn line (column + c.utf8Size) (room - c.utf8Size) rest

namespace JsonFault

def offset (fault : JsonFault) (text : List Char) : Nat :=
  charBytes text - charBytes fault.rest + fault.extra

def message (fault : JsonFault) (text : List Char) : String :=
  let (line, column) := lineColumn 1 0 (fault.offset text) text
  s!"{fault.reason.message} at line {line} column {column}"

end JsonFault

end TaskLink
