import TaskLink.Json.Quoted

/-!
# Quoted texts of settings

Texts in double quotes know escapes, those in single quotes do not.  Three
quotes enclose several lines; a line break right after them is not part of the
text.
-/

namespace TaskLink

namespace Toml

abbrev Scan (α : Type) := Option (α × List Char)

def isPrintable (c : Char) : Bool :=
  c == '\t' || (' ' ≤ c && c != '\x7f')

def escape? : Char → Option Char
  | 'b' => some '\x08'
  | 't' => some '\t'
  | 'n' => some '\n'
  | 'f' => some '\x0c'
  | 'r' => some '\r'
  | '"' => some '"'
  | '\\' => some '\\'
  | _ => none

/-- The character with a code, unless it is a surrogate or too large. -/
def charOfCode? (code : Nat) : Option Char :=
  if code.isValidChar then some (Char.ofNat code) else none

def shortCode? (a b c d : Char) : Option Char :=
  (hexQuad? a b c d).bind charOfCode?

def longCode? (a b c d e f g h : Char) : Option Char :=
  match hexQuad? a b c d, hexQuad? e f g h with
  | some high, some low => charOfCode? (high * 65536 + low)
  | _, _ => none

def skipBlanks (text : List Char) : List Char :=
  text.dropWhile fun c => c == ' ' || c == '\t'

def afterNewline? : List Char → Option (List Char)
  | '\n' :: rest => some rest
  | '\r' :: '\n' :: rest => some rest
  | _ => none

/-! ## One line -/

def basic (done : List Char) : List Char → Scan String
  | [] => none
  | '"' :: rest => some (String.ofList done.reverse, rest)
  | '\\' :: 'u' :: a :: b :: c :: d :: rest =>
      match shortCode? a b c d with
      | some char => basic (char :: done) rest
      | none => none
  | '\\' :: 'U' :: a :: b :: c :: d :: e :: f :: g :: h :: rest =>
      match longCode? a b c d e f g h with
      | some char => basic (char :: done) rest
      | none => none
  | '\\' :: letter :: rest =>
      match escape? letter with
      | some char => basic (char :: done) rest
      | none => none
  | c :: rest => if isPrintable c && c != '\\' then basic (c :: done) rest else none

def literal (done : List Char) : List Char → Scan String
  | [] => none
  | c :: rest =>
      if c == '\'' then some (String.ofList done.reverse, rest)
      else if isPrintable c then literal (c :: done) rest
      else none

/-! ## Several lines -/

/-- Whether a backslash here ends a line, so that blanks up to the next text are dropped. -/
def continuesLine (rest : List Char) : Bool :=
  (afterNewline? (skipBlanks rest)).isSome

/-- A text of several lines in double quotes; `skipping` drops blanks and line breaks. -/
def basicLines (skipping : Bool) (done : List Char) : List Char → Scan String
  | [] => none
  | '"' :: '"' :: '"' :: '"' :: '"' :: rest =>
      some (String.ofList ('"' :: '"' :: done).reverse, rest)
  | '"' :: '"' :: '"' :: '"' :: rest => some (String.ofList ('"' :: done).reverse, rest)
  | '"' :: '"' :: '"' :: rest => some (String.ofList done.reverse, rest)
  | '\r' :: '\n' :: rest => basicLines skipping (if skipping then done else '\n' :: done) rest
  | '\\' :: 'u' :: a :: b :: c :: d :: rest =>
      match shortCode? a b c d with
      | some char => basicLines false (char :: done) rest
      | none => none
  | '\\' :: 'U' :: a :: b :: c :: d :: e :: f :: g :: h :: rest =>
      match longCode? a b c d e f g h with
      | some char => basicLines false (char :: done) rest
      | none => none
  | '\\' :: letter :: rest =>
      if continuesLine (letter :: rest) then basicLines true done (letter :: rest)
      else
        match escape? letter with
        | some char => basicLines false (char :: done) rest
        | none => none
  | c :: rest =>
      if c == '\n' then basicLines skipping (if skipping then done else c :: done) rest
      else if c == '\\' || !isPrintable c then none
      else if skipping && (c == ' ' || c == '\t') then basicLines true done rest
      else basicLines false (c :: done) rest

def literalLines (done : List Char) : List Char → Scan String
  | [] => none
  | '\'' :: '\'' :: '\'' :: '\'' :: '\'' :: rest =>
      some (String.ofList ('\'' :: '\'' :: done).reverse, rest)
  | '\'' :: '\'' :: '\'' :: '\'' :: rest => some (String.ofList ('\'' :: done).reverse, rest)
  | '\'' :: '\'' :: '\'' :: rest => some (String.ofList done.reverse, rest)
  | '\r' :: '\n' :: rest => literalLines ('\n' :: done) rest
  | c :: rest =>
      if c == '\n' || isPrintable c then literalLines (c :: done) rest else none

/-! ## Any quotes -/

def dropNewline (text : List Char) : List Char :=
  (afterNewline? text).getD text

def quoted? : List Char → Scan String
  | '"' :: '"' :: '"' :: rest => basicLines false [] (dropNewline rest)
  | '\'' :: '\'' :: '\'' :: rest => literalLines [] (dropNewline rest)
  | '"' :: rest => basic [] rest
  | '\'' :: rest => literal [] rest
  | _ => none

end Toml

end TaskLink
