import TaskLink.Toml.Quoted
import TaskLink.Toml.Scalar

/-!
# Reading settings texts

A settings text is a row of lines: headers, keys with values, comments and
blank lines.  Values nest by arrays and by tables between braces.
-/

namespace TaskLink

namespace Toml

def depthLimit : Nat := 80

/-! ## Blanks and comments -/

def skipComment : List Char → List Char
  | '#' :: rest => rest.dropWhile isPrintable
  | rest => rest

def endLine? (input : List Char) : Option (List Char) :=
  match skipComment (skipBlanks input) with
  | [] => some []
  | rest => afterNewline? rest

def skipLines : Nat → List Char → Option (List Char)
  | 0, input => some input
  | fuel + 1, input =>
      match skipBlanks input with
      | [] => some []
      | '#' :: rest =>
          match afterNewline? (rest.dropWhile isPrintable) with
          | some rest => skipLines fuel rest
          | none => none
      | '\n' :: rest => skipLines fuel rest
      | '\r' :: '\n' :: rest => skipLines fuel rest
      | rest => some rest

/-! ## Keys -/

/-- Whether a character may stand in a key without quotes. -/
def isKeyChar (c : Char) : Bool :=
  c.isAlphanum || c == '_' || c == '-'

def simpleKey? (input : List Char) : Scan String :=
  match input with
  | '"' :: rest => basic [] rest
  | '\'' :: rest => literal [] rest
  | _ =>
      match input.takeWhile isKeyChar with
      | [] => none
      | key => some (String.ofList key, input.dropWhile isKeyChar)

def dottedKey? : Nat → List String → List Char → Scan (List String × String)
  | 0, _, _ => none
  | fuel + 1, path, input =>
      match simpleKey? (skipBlanks input) with
      | none => none
      | some (key, rest) =>
          match skipBlanks rest with
          | '.' :: rest => dottedKey? fuel (key :: path) rest
          | rest => some ((path.reverse, key), rest)

def key? (input : List Char) : Scan (List String × String) :=
  match dottedKey? (input.length + 1) [] input with
  | some ((path, key), rest) =>
      if path.length + 1 < depthLimit then some ((path, key), rest) else none
  | none => none

/-! ## Values -/

mutual

/-- A value; `depth` bounds how far containers may still nest. -/
def value? (depth : Nat) (input : List Char) : Scan Toml :=
  match input with
  | [] => none
  | c :: rest =>
      if c == '"' || c == '\'' then (quoted? input).map fun (value, rest) => (.text value, rest)
      else if c == '[' then
        match depth with
        | 0 => none
        | depth + 1 => items? depth (input.length + 1) [] rest
      else if c == '\x7b' then
        match depth with
        | 0 => none
        | depth + 1 =>
            match skipBlanks rest with
            | '\x7d' :: rest => some (.table .inline [], rest)
            | rest => members? depth (input.length + 1) [] rest
      else scalar? input
termination_by (depth, 0)

def items? (depth fuel : Nat) (done : List Toml) (input : List Char) : Scan Toml :=
  match fuel with
  | 0 => none
  | fuel + 1 =>
      match skipLines (input.length + 1) input with
      | none => none
      | some (']' :: rest) => some (.array done.reverse, rest)
      | some input =>
          match value? depth input with
          | none => none
          | some (item, rest) =>
              match skipLines (rest.length + 1) rest with
              | some (',' :: rest) => items? depth fuel (item :: done) rest
              | some (']' :: rest) => some (.array (item :: done).reverse, rest)
              | _ => none
termination_by (depth, fuel + 1)

def members? (depth fuel : Nat) (entries : TomlEntries) (input : List Char) : Scan Toml :=
  match fuel with
  | 0 => none
  | fuel + 1 =>
      match key? input with
      | some ((path, key), '=' :: rest) =>
          match value? depth (skipBlanks rest) with
          | none => none
          | some (value, rest) =>
              match entries.insertDotted path key value with
              | none => none
              | some entries =>
                  match skipBlanks rest with
                  | ',' :: rest => members? depth fuel entries rest
                  | '\x7d' :: rest => some (.table .inline entries, rest)
                  | _ => none
      | _ => none
termination_by (depth, fuel + 1)

end

/-! ## Lines -/

def closeHeader? (double : Bool) (input : List Char) : Option (List Char) :=
  match double, input with
  | true, ']' :: ']' :: rest => endLine? rest
  | false, ']' :: rest => endLine? rest
  | _, _ => none

def header? (double : Bool) (root : TomlEntries) (input : List Char) :
    Scan (TomlEntries × List String) :=
  match key? input with
  | none => none
  | some ((path, key), rest) =>
      match closeHeader? double rest with
      | none => none
      | some rest =>
          let opened := TomlEntries.changeAt
            (if double then TomlEntries.openRow key else TomlEntries.openTable key) root path
          opened.map fun root => ((root, path ++ [key]), rest)

def assignment? (root : TomlEntries) (target : List String) (input : List Char) :
    Scan TomlEntries :=
  match key? input with
  | some ((path, key), '=' :: rest) =>
      match value? (depthLimit - 1) (skipBlanks rest) with
      | none => none
      | some (value, rest) =>
          match endLine? rest with
          | none => none
          | some rest =>
              (root.changeAt (fun entries => entries.insertDotted path key value) target).map
                fun root => (root, rest)
  | _ => none

/-- Lines up to the end of the text; keys go to the table at a path. -/
def lines? : Nat → TomlEntries → List String → List Char → Option TomlEntries
  | 0, _, _, _ => none
  | fuel + 1, root, target, input =>
      match skipBlanks input with
      | [] => some root
      | '#' :: rest => (endLine? ('#' :: rest)).bind (lines? fuel root target)
      | '\n' :: rest => lines? fuel root target rest
      | '\r' :: rest => (afterNewline? ('\r' :: rest)).bind (lines? fuel root target)
      | '[' :: '[' :: rest =>
          (header? true root rest).bind fun ((root, target), rest) => lines? fuel root target rest
      | '[' :: rest =>
          (header? false root rest).bind fun ((root, target), rest) => lines? fuel root target rest
      | input => (assignment? root target input).bind fun (root, rest) => lines? fuel root target rest

/-- The top table of a settings text; a byte order mark may start it. -/
def read? (input : String) : Option TomlEntries :=
  let chars := match input.toList with
    | '\uFEFF' :: rest => rest
    | chars => chars
  lines? (chars.length + 1) [] [] chars

end Toml

end TaskLink
