import TaskLink.Json.Tree
import TaskLink.Number.Text

/-!
# Writing data texts

Two layouts: compact, without blanks, and indented by two blanks per level.
Members are written in the order in which the tree holds them.
-/

namespace TaskLink

/-! ## Leaves -/

def hexChar (value : Nat) : Char :=
  if value < 10 then Char.ofNat ('0'.toNat + value) else Char.ofNat ('a'.toNat + (value - 10))

def escapedChar (c : Char) : List Char :=
  if c == '"' then ['\\', '"']
  else if c == '\\' then ['\\', '\\']
  else if c == '\x08' then ['\\', 'b']
  else if c == '\x0c' then ['\\', 'f']
  else if c == '\n' then ['\\', 'n']
  else if c == '\r' then ['\\', 'r']
  else if c == '\t' then ['\\', 't']
  else if c < ' ' then ['\\', 'u', '0', '0', hexChar (c.toNat / 16), hexChar (c.toNat % 16)]
  else [c]

def quotedChars (text : String) : List Char :=
  '"' :: (text.toList.flatMap escapedChar ++ ['"'])

def JsonNumber.text : JsonNumber → String
  | .whole value => toString value
  | .double value => value.exchangeText

namespace Json

/-! ## Compact layout -/

mutual

def compactChars : Json → List Char
  | .null => ['n', 'u', 'l', 'l']
  | .bool true => ['t', 'r', 'u', 'e']
  | .bool false => ['f', 'a', 'l', 's', 'e']
  | .number value => value.text.toList
  | .text value => quotedChars value
  | .array items => '[' :: (compactItems items ++ [']'])
  | .object members => '\x7b' :: (compactMembers members ++ ['\x7d'])

def compactItems : List Json → List Char
  | [] => []
  | [item] => compactChars item
  | item :: rest => compactChars item ++ ',' :: compactItems rest

def compactMembers : List (String × Json) → List Char
  | [] => []
  | [(key, value)] => quotedChars key ++ ':' :: compactChars value
  | (key, value) :: rest =>
      quotedChars key ++ ':' :: (compactChars value ++ ',' :: compactMembers rest)

end

def compact (value : Json) : String :=
  String.ofList value.compactChars

/-! ## Indented layout -/

def newLine (level : Nat) : List Char :=
  '\n' :: List.replicate (2 * level) ' '

mutual

/-- The characters of the indented layout; `level` is that of the surrounding container. -/
def prettyChars (level : Nat) : Json → List Char
  | .null => ['n', 'u', 'l', 'l']
  | .bool true => ['t', 'r', 'u', 'e']
  | .bool false => ['f', 'a', 'l', 's', 'e']
  | .number value => value.text.toList
  | .text value => quotedChars value
  | .array [] => ['[', ']']
  | .object [] => ['\x7b', '\x7d']
  | .array items => '[' :: (prettyItems (level + 1) items ++ newLine level ++ [']'])
  | .object members =>
      '\x7b' :: (prettyMembers (level + 1) members ++ newLine level ++ ['\x7d'])

def prettyItems (level : Nat) : List Json → List Char
  | [] => []
  | [item] => newLine level ++ prettyChars level item
  | item :: rest => newLine level ++ prettyChars level item ++ ',' :: prettyItems level rest

def prettyMembers (level : Nat) : List (String × Json) → List Char
  | [] => []
  | [(key, value)] => newLine level ++ quotedChars key ++ ':' :: ' ' :: prettyChars level value
  | (key, value) :: rest =>
      newLine level ++ quotedChars key ++ ':' :: ' ' :: (prettyChars level value ++
        ',' :: prettyMembers level rest)

end

def pretty (value : Json) : String :=
  String.ofList (value.prettyChars 0)

end Json

end TaskLink
