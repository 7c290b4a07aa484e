import TaskLink.Number.Double

/-!
# Settings trees

The values of a settings text, and the rules by which headers and dotted keys
build tables.  A table remembers how it came to be, because that decides what
may still be added to it.
-/

namespace TaskLink

inductive TableOrigin where
  | header
  | implied
  | dotted
  | inline
  deriving DecidableEq

inductive Toml where
  | text (value : String)
  | whole (value : Int)
  | double (value : Double)
  | bool (value : Bool)
  | date
  | array (items : List Toml)
  | table (origin : TableOrigin) (entries : List (String × Toml))
  | tables (rows : List (List (String × Toml)))
  deriving Inhabited

abbrev TomlEntries := List (String × Toml)

namespace TomlEntries

def find? (entries : TomlEntries) (key : String) : Option Toml :=
  match entries with
  | [] => none
  | (first, value) :: rest => if first == key then some value else find? rest key

def put (entries : TomlEntries) (key : String) (value : Toml) : TomlEntries :=
  match entries with
  | [] => [(key, value)]
  | (first, found) :: rest =>
      if first == key then (key, value) :: rest else (first, found) :: put rest key value

/-! ## Keys and values -/

def changeLast (change : TomlEntries → Option TomlEntries) :
    List TomlEntries → Option (List TomlEntries)
  | [] => none
  | [row] => (change row).map fun row => [row]
  | row :: rest => (changeLast change rest).map (row :: ·)

/--
Add a value under a dotted key.  The key may end in a dotted table only; it may
pass through tables that were implied and through the last row of an array.
-/
def insertDotted (entries : TomlEntries) :
    List String → String → Toml → Option TomlEntries
  | [], key, value =>
      match entries.find? key with
      | none => some (entries ++ [(key, value)])
      | some _ => none
  | first :: path, key, value =>
      match entries.find? first with
      | none => (insertDotted [] path key value).map fun inner =>
          entries ++ [(first, .table .dotted inner)]
      | some (.table .dotted inner) => (insertDotted inner path key value).map fun inner =>
          entries.put first (.table .dotted inner)
      | some (.table .implied inner) =>
          if path.isEmpty then none
          else (insertDotted inner path key value).map fun inner =>
            entries.put first (.table .implied inner)
      | some (.tables rows) =>
          if path.isEmpty then none
          else (changeLast (fun row => insertDotted row path key value) rows).map fun rows =>
            entries.put first (.tables rows)
      | some _ => none

/-- Change the entries that a header's path leads to, creating tables on the way. -/
def changeAt (change : TomlEntries → Option TomlEntries) (entries : TomlEntries) :
    List String → Option TomlEntries
  | [] => change entries
  | first :: path =>
      match entries.find? first with
      | none => (changeAt change [] path).map fun inner =>
          entries ++ [(first, .table .implied inner)]
      | some (.table .inline _) => none
      | some (.table origin inner) => (changeAt change inner path).map fun inner =>
          entries.put first (.table origin inner)
      | some (.tables rows) => (changeLast (fun row => changeAt change row path) rows).map
          fun rows => entries.put first (.tables rows)
      | some _ => none

/-! ## Headers -/

def openTable (key : String) (entries : TomlEntries) : Option TomlEntries :=
  match entries.find? key with
  | none => some (entries ++ [(key, .table .header [])])
  | some (.table .implied inner) => some (entries.put key (.table .header inner))
  | some _ => none

def openRow (key : String) (entries : TomlEntries) : Option TomlEntries :=
  match entries.find? key with
  | none => some (entries ++ [(key, .tables [[]])])
  | some (.tables rows) => some (entries.put key (.tables (rows ++ [[]])))
  | some _ => none

end TomlEntries

end TaskLink
